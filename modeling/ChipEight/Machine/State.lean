import ChipEight.Display.Grid
import ChipEight.Keypad.Basic
import ChipEight.Machine.CallStack
import ChipEight.Machine.Memory
import ChipEight.Random.Source
import ChipEight.Settings.Basic

/-!
# Machine

The whole state of the machine. The sizes of its parts are in their types: registers and timers
hold bytes, `I` and `PC` hold words, and every index that an instruction computes is in range.
-/

namespace ChipEight

/-- The display of the machine. -/
abbrev Screen := Grid Layout.displayWidth Layout.displayHeight

/-- A general register, V0 to VF. -/
abbrev Register := Nibble

/-- The state of the machine. -/
structure Machine where
  memory : Memory
  /-- The general registers. -/
  v : Vector UInt8 16
  /-- The index register. -/
  i : Word
  /-- The address of the next instruction. -/
  pc : Word
  stack : CallStack
  delay : UInt8
  sound : UInt8
  display : Screen
  keypad : Keypad
  /-- Does the program wait for a key? -/
  blocked : Bool
  random : RandomSource
  settings : Settings
  /-- Instructions carried out. -/
  cycles : Nat
  /-- Timer steps made. -/
  ticks : Nat

namespace Machine

/-- The machine at power-on. -/
def new (settings : Settings) (random : RandomSource) : Machine where
  memory := .initial
  v := Vector.replicate 16 0
  i := 0
  pc := UInt16.ofNat Layout.programStart
  stack := .empty
  delay := 0
  sound := 0
  display := .dark
  keypad := .empty
  blocked := false
  random
  settings
  cycles := 0
  ticks := 0

instance : Inhabited Machine := ⟨new default default⟩

/-- Back to power-on; the settings and the random source stay as they are. -/
def reset (m : Machine) : Machine := new m.settings m.random

/-! ## Registers -/

/-- The register that receives flags. -/
def flag : Register := .ofNat 0xF

/-- The value of a general register. -/
def reg (m : Machine) (r : Register) : UInt8 := m.v.get r

/-- Writes a general register. -/
def setReg (m : Machine) (r : Register) (b : UInt8) : Machine :=
  { m with v := m.v.set r.val b r.val_lt }

/-- Writes the flag register. -/
def setFlag (m : Machine) (b : UInt8) : Machine := m.setReg flag b

/-- Is a switch of the settings on? -/
def isOn (m : Machine) (q : Switch) : Bool := m.settings.isOn q

/-- Does the machine sound? -/
def soundActive (m : Machine) : Bool := 0 < m.sound

/-- The instruction word at `PC`. -/
def fetch (m : Machine) : Word := m.memory.word m.pc

/-! ## Keys -/

def press (m : Machine) (key : Key) : Machine := { m with keypad := m.keypad.press key }

def release (m : Machine) (key : Key) : Machine := { m with keypad := m.keypad.release key }

/-! ## Registers by name -/

/-- All registers by name: the general ones, then the special ones. -/
def registers (m : Machine) : List (String × Nat) :=
  (List.finRange 16).map (fun (r : Register) => ("v" ++ Hex.lower 1 r.val, (m.reg r).toNat)) ++
    [("i", m.i.toNat), ("pc", m.pc.toNat), ("sp", m.stack.depth.val),
      ("delay", m.delay.toNat), ("sound", m.sound.toNat)]

/-! ## Laws of the view -/

theorem reg_setReg (m : Machine) (r s : Register) (b : UInt8) :
    (m.setReg r b).reg s = if r = s then b else m.reg s := by
  show (m.v.set r.val b r.val_lt)[s.val] = if r = s then b else m.v[s.val]
  simp only [Vector.getElem_set, Fin.ext_iff]

@[simp]
theorem reg_setReg_self (m : Machine) (r : Register) (b : UInt8) : (m.setReg r b).reg r = b := by
  simp [reg_setReg]

theorem reg_setReg_of_ne (m : Machine) {r s : Register} (b : UInt8) (h : r ≠ s) :
    (m.setReg r b).reg s = m.reg s := by
  simp [reg_setReg, h]

end Machine

end ChipEight
