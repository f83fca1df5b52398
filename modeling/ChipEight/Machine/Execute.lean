import ChipEight.Instruction.Decode
import ChipEight.Machine.Fault
import ChipEight.Machine.State

/-!
# Executing instructions

An instruction is carried out in three parts, each a function of the state before it:

* `Machine.faultOf?` says whether it can be carried out at all;
* `Machine.advance` says by how many bytes `PC` moves on;
* `Machine.effect` is the new state, in which `PC` has not moved on yet.

Splitting them keeps a faulting instruction from leaving a trace.
-/

namespace ChipEight.Machine

/-- What keeps an instruction from being carried out. -/
def faultOf? (m : Machine) (op : Op) (w : Word) : Option Fault :=
  match op with
  | .unknown => some (.unknownOpcode w m.pc)
  | .call => if m.stack.depth.val = 16 then some (.stackOverflow m.pc) else none
  | .ret => if m.stack.depth.val = 0 then some (.stackUnderflow m.pc) else none
  | _ => none

/-! ## Moving on -/

/-- Bytes to the next instruction. -/
def step : Word := 2

/-- Bytes past the next instruction. -/
def skip : Word := 4

/-- Past the next instruction if the condition holds. -/
def skipIf (c : Bool) : Word := if c then skip else step

/-- By how many bytes `PC` moves on. Jumps and calls set it themselves, and a wait for a key
repeats the same instruction. -/
def advance (m : Machine) (op : Op) (w : Word) : Word :=
  match op with
  | .jump | .call | .jumpOffset | .unknown => 0
  | .skipEqByte => skipIf (m.reg w.x == w.nn)
  | .skipNeByte => skipIf (m.reg w.x != w.nn)
  | .skipEqReg => skipIf (m.reg w.x == m.reg w.y)
  | .skipNeReg => skipIf (m.reg w.x != m.reg w.y)
  | .skipKey => skipIf (m.keypad.isPressed (m.reg w.x).toNat)
  | .skipNoKey => skipIf (!m.keypad.isPressed (m.reg w.x).toNat)
  | .awaitKey => if m.keypad.first?.isSome then step else 0
  | _ => step

/-! ## Effects -/

/-- A flag as a byte. -/
def flagOf (c : Bool) : UInt8 := if c then 1 else 0

/-- The end of a logical instruction: VF is cleared if that switch is on. -/
def clearFlagIf (m : Machine) (c : Bool) : Machine := if c then m.setFlag 0 else m

/-- The register that a shift reads. -/
def shiftSource (m : Machine) (w : Word) : UInt8 :=
  if m.isOn .shifting then m.reg w.x else m.reg w.y

/-- The register that a jump with an offset adds. -/
def jumpRegister (m : Machine) (w : Word) : Register := if m.isOn .jumping then w.x else .ofNat 0

/-- Saves the address of this instruction, to which a return adds one step. -/
def enter (m : Machine) (target : Word) : Machine :=
  match m.stack.push? m.pc with
  | some stack => { m with stack, pc := target }
  | none => m

/-- Goes back to the last saved address. -/
def leave (m : Machine) : Machine :=
  match m.stack.pop? with
  | some (a, stack) => { m with stack, pc := a }
  | none => m

/-- Draws one random byte, whatever the mask, and writes its masked bits. -/
def drawRandom (m : Machine) (r : Register) (mask : UInt8) : Machine :=
  let (b, random) := m.random.next
  { m.setReg r (b &&& mask) with random }

/-- Adds a register to `I`. -/
def addToIndex (m : Machine) (r : Register) : Machine :=
  let total := m.i.toNat + (m.reg r).toNat
  let moved := { m with i := UInt16.ofNat total }
  if m.isOn .indexOverflow then moved.setFlag (flagOf (0xFFFF < total)) else moved

/-- Writes the three decimal digits of a byte from `I` on. -/
def storeDecimal (m : Machine) (b : UInt8) : Machine :=
  { m with memory := m.memory.writeAll m.i [b / 100, b / 10 % 10, b % 10] }

/-- Moves `I` past the registers V0 to VX if that switch is on. -/
def moveIndexIf (m : Machine) (c : Bool) (x : Register) : Machine :=
  if c then { m with i := m.i + UInt16.ofNat x.val + 1 } else m

/-- Writes V0 to VX to memory from `I` on. -/
def storeRegisters (m : Machine) (x : Register) : Machine :=
  { m with memory := m.memory.writeAll m.i (m.v.toList.take (x.val + 1)) }

/-- Reads V0 to VX from memory from `I` on. -/
def loadRegisters (m : Machine) (x : Register) : Machine :=
  { m with
    v := m.v.mapFinIdx fun k b _ => if k ≤ x.val then m.memory.read (m.i + UInt16.ofNat k) else b }

/-- Draws the sprite of `n` rows that `I` points to, and writes the collision flag. -/
def drawSprite (m : Machine) (x y : UInt8) (n : Nat) : Machine :=
  let rows := (m.memory.readAll m.i n).map fun b => (b.toNat : Int)
  let (hit, display) := m.display.draw x.toNat y.toNat rows
  { m.setFlag (flagOf hit) with display }

/-- Takes the lowest pressed key, or waits. -/
def takeKey (m : Machine) (r : Register) : Machine :=
  match m.keypad.first? with
  | some key => { m.setReg r (UInt8.ofNat key.val) with blocked := false }
  | none => { m with blocked := true }

/-- The state after an instruction, before `PC` moves on. -/
def effect (m : Machine) (op : Op) (w : Word) : Machine :=
  let x := w.x
  let vx := m.reg x
  let vy := m.reg w.y
  match op with
  | .clear => { m with display := .dark }
  | .ret => m.leave
  | .jump => { m with pc := w.nnn }
  | .call => m.enter w.nnn
  | .skipEqByte | .skipNeByte | .skipEqReg | .skipNeReg | .skipKey | .skipNoKey => m
  | .loadByte => m.setReg x w.nn
  | .addByte => m.setReg x (vx + w.nn)
  | .move => m.setReg x vy
  | .or => (m.setReg x (vx ||| vy)).clearFlagIf (m.isOn .vfReset)
  | .and => (m.setReg x (vx &&& vy)).clearFlagIf (m.isOn .vfReset)
  | .xor => (m.setReg x (vx ^^^ vy)).clearFlagIf (m.isOn .vfReset)
  -- The flag is written last: it wins when X is F. Operands are read before.
  | .add => (m.setReg x (vx + vy)).setFlag (flagOf (0xFF < vx.toNat + vy.toNat))
  | .sub => (m.setReg x (vx - vy)).setFlag (flagOf (vy ≤ vx))
  | .subFrom => (m.setReg x (vy - vx)).setFlag (flagOf (vx ≤ vy))
  | .shiftRight => (m.setReg x (m.shiftSource w >>> 1)).setFlag (m.shiftSource w &&& 1)
  | .shiftLeft => (m.setReg x (m.shiftSource w <<< 1)).setFlag (m.shiftSource w >>> 7)
  | .loadIndex => { m with i := w.nnn }
  | .jumpOffset => { m with pc := w.nnn + UInt16.ofNat (m.reg (m.jumpRegister w)).toNat }
  | .random => m.drawRandom x w.nn
  -- The position comes from the registers as they were, also when one of them is VF.
  | .draw => m.drawSprite vx vy w.n.val
  | .readDelay => m.setReg x m.delay
  | .awaitKey => m.takeKey x
  | .setDelay => { m with delay := vx }
  | .setSound => { m with sound := vx }
  | .addIndex => m.addToIndex x
  | .glyph => { m with i := UInt16.ofNat (Layout.glyphAddress vx.toNat) }
  | .decimal => m.storeDecimal vx
  -- The switch is asked on the machine before the registers or the memory change.
  | .store =>
    let moves := m.isOn .memory
    (m.storeRegisters x).moveIndexIf moves x
  | .load =>
    let moves := m.isOn .memory
    (m.loadRegisters x).moveIndexIf moves x
  | .unknown => m

/-- Carries out an instruction without moving `PC` on, and says by how much it has to move. -/
def perform (m : Machine) (op : Op) (w : Word) : Except Fault (Word × Machine) :=
  match m.faultOf? op w with
  | some fault => .error fault
  | none =>
    let distance := m.advance op w
    .ok (distance, m.effect op w)

/-- Decodes a word and carries it out. -/
def execute (m : Machine) (w : Word) : Except Fault (Word × Machine) := m.perform (decode w) w

/-- A word whose instruction has no fault is carried out. -/
theorem execute_of_none (m : Machine) {w : Word} {op : Op} (hop : decode w = op)
    (h : m.faultOf? op w = none) : m.execute w = .ok (m.advance op w, m.effect op w) := by
  rw [execute, hop, perform, h]

end ChipEight.Machine
