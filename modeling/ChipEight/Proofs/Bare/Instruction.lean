import ChipEight.Proofs.Bare.Machine

/-!
# Instructions of the bare machine

Each instruction is a sequence of reads and writes and answers by how many bytes `PC` moves on.
`carryOut` is the table of all instructions; the ones of more than a line have names of their own.
-/

namespace ChipEight.BareMachine

/-- Bytes past the next instruction if the condition holds, else to the next one. -/
def skipIf (c : Bool) : Int := if c then 4 else 2

/-! ## Flow -/

/-- Goes back past the call that was entered last: the saved address is the one of the call. -/
def comeBack : Action Int := do
  setCounter (← pop)
  return 2

def enter (w : Word) : Action Int := do
  push (← get).pc
  setCounter w.nnn.toNat
  return 0

def jumpOffset (w : Word) : Action Int := do
  let r : Int := if (← get).isOn .jumping then w.x.val else 0
  setCounter ((← register r) + w.nnn.toNat)
  return 0

/-! ## Registers -/

/-- Stores the result of a logical operation, then clears the flag if that switch is on. -/
def logic (w : Word) (f : Int → Int → Int) : Action Int := do
  setRegister w.x.val (f (← register w.x.val) (← register w.y.val))
  if (← get).isOn .vfReset then setFlag 0
  return 2

def addRegisters (w : Word) : Action Int := do
  let total := (← register w.x.val) + (← register w.y.val)
  setRegister w.x.val total
  setFlag (flagNumber (decide (0xFF < total)))
  return 2

/-- Stores `a - b`, where `a` and `b` are VX and VY in either order. -/
def subtract (w : Word) (swapped : Bool) : Action Int := do
  let vx ← register w.x.val
  let vy ← register w.y.val
  let (a, b) := if swapped then (vy, vx) else (vx, vy)
  setRegister w.x.val (a - b)
  setFlag (flagNumber (decide (b ≤ a)))
  return 2

/-- The register that a shift reads. -/
def shiftSource (w : Word) : Action Int := do
  if (← get).isOn .shifting then register w.x.val else register w.y.val

def shiftRight (w : Word) : Action Int := do
  let source ← shiftSource w
  setRegister w.x.val (source / 2)
  setFlag (source % 2)
  return 2

def shiftLeft (w : Word) : Action Int := do
  let source ← shiftSource w
  setRegister w.x.val (source * 2)
  setFlag (source / 0x80)
  return 2

def random (w : Word) : Action Int := do
  let n ← draw
  setRegister w.x.val (Int.land n w.nn.toNat)
  return 2

/-! ## Index register and memory -/

def addIndex (w : Word) : Action Int := do
  let total := (← get).i + (← register w.x.val)
  setIndex total
  if (← get).isOn .indexOverflow then setFlag (flagNumber (decide (0xFFFF < total)))
  return 2

def storeDecimal (w : Word) : Action Int := do
  let value ← register w.x.val
  let base := (← get).i
  writeCell base (value / 100)
  writeCell (base + 1) (value / 10 % 10)
  writeCell (base + 2) (value % 10)
  return 2

/-- Moves `I` past the registers V0 to VX if that switch is on. -/
def moveIndex (w : Word) : Action Unit := do
  if (← get).isOn .memory then setIndex ((← get).i + w.x.val + 1)

/-- Writes one register to memory, as far behind `I` as its number says. -/
def storeRegister (k : Nat) : Action Unit := do
  writeCell ((← get).i + k) (← register k)

/-- Reads one register from memory, as far behind `I` as its number says. -/
def loadRegister (k : Nat) : Action Unit := do
  setRegister k (← readCell ((← get).i + k))

def storeRegisters (w : Word) : Action Int := do
  forM (List.range (w.x.val + 1)) storeRegister
  moveIndex w
  return 2

def loadRegisters (w : Word) : Action Int := do
  forM (List.range (w.x.val + 1)) loadRegister
  moveIndex w
  return 2

/-- The `n` cells that come `k` places behind `I`. -/
def readRows : Nat → Nat → Action (List Int)
  | _, 0 => return []
  | k, n + 1 => do
    let row ← readCell ((← get).i + k)
    let rows ← readRows (k + 1) n
    return row :: rows

def drawSprite (w : Word) : Action Int := do
  let rows ← readRows 0 w.n.val
  let x ← register w.x.val
  let y ← register w.y.val
  let hit ← drawRows (x % Layout.displayWidth) (y % Layout.displayHeight) rows false
  setFlag (flagNumber hit)
  return 2

/-! ## Keys and timers -/

def awaitKey (w : Word) : Action Int := do
  match (← get).firstPressed with
  | none =>
    modify fun s => { s with blocked := true }
    return 0
  | some k =>
    setRegister w.x.val k
    modify fun s => { s with blocked := false }
    return 2

def setDelay (w : Word) : Action Int := do
  let value ← register w.x.val
  modify fun s => { s with delay := value }
  return 2

def setSound (w : Word) : Action Int := do
  let value ← register w.x.val
  modify fun s => { s with sound := value }
  return 2

/-! ## All instructions -/

/-- Carries out an instruction and answers by how many bytes `PC` moves on. -/
def carryOut (op : Op) (w : Word) : Action Int :=
  match op with
  | .clear => do
    modify fun s => { s with pixels := darkened s.pixels }
    return 2
  | .ret => comeBack
  | .jump => do
    setCounter w.nnn.toNat
    return 0
  | .call => enter w
  | .jumpOffset => jumpOffset w
  | .skipEqByte => return skipIf ((← register w.x.val) == w.nn.toNat)
  | .skipNeByte => return skipIf ((← register w.x.val) != w.nn.toNat)
  | .skipEqReg => return skipIf ((← register w.x.val) == (← register w.y.val))
  | .skipNeReg => return skipIf ((← register w.x.val) != (← register w.y.val))
  | .skipKey => return skipIf (← keyPressed (← register w.x.val))
  | .skipNoKey => return skipIf (!(← keyPressed (← register w.x.val)))
  | .loadByte => do
    setRegister w.x.val w.nn.toNat
    return 2
  | .addByte => do
    setRegister w.x.val ((← register w.x.val) + w.nn.toNat)
    return 2
  | .move => do
    setRegister w.x.val (← register w.y.val)
    return 2
  | .or => logic w Int.lor
  | .and => logic w Int.land
  | .xor => logic w Int.xor
  | .add => addRegisters w
  | .sub => subtract w false
  | .subFrom => subtract w true
  | .shiftRight => shiftRight w
  | .shiftLeft => shiftLeft w
  | .random => random w
  | .loadIndex => do
    setIndex w.nnn.toNat
    return 2
  | .addIndex => addIndex w
  | .glyph => do
    setIndex (Layout.glyphAddress (← register w.x.val))
    return 2
  | .decimal => storeDecimal w
  | .store => storeRegisters w
  | .load => loadRegisters w
  | .draw => drawSprite w
  | .readDelay => do
    setRegister w.x.val (← get).delay
    return 2
  | .awaitKey => awaitKey w
  | .setDelay => setDelay w
  | .setSound => setSound w
  | .unknown => do throw (.unknownOpcode w.toNat (← get).pc)

end ChipEight.BareMachine
