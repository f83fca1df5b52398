import ChipEight.Machine.Operation
import Mathlib

/-!
# The bare machine

The machine once more, with nothing in its types. `Machine` holds bytes, words and vectors of fixed
length, so that an ill-formed machine cannot even be written down. `BareMachine` holds integers and
lists, and what keeps it well formed is the code alone:

* every access to a place of a list is checked when it is made (`element`, `replaced`), and one
  beyond either end stops the action;
* numbers are cut to a byte or to a word only where a writing action does so;
* an action writes as it goes: what was written before it stopped stays written.

`BareMachine.WellFormed` is the invariant. The instructions are in `Bare/Instruction`, the host
operations in `Bare/Operation`, and `Bare/Agreement` shows that the two machines behave alike.
-/

namespace ChipEight

/-- Why an action on a bare machine stops. -/
inductive Stop where
  | unknownOpcode (word address : Int)
  | stackOverflow (address : Int)
  | stackUnderflow (address : Int)
  /-- A list was asked for a place that it does not have. -/
  | noSuchPlace
  /-- A memory cell was given a number that is no byte. -/
  | noByte
  /-- The host asked for something that is refused. -/
  | refused (r : Refusal)
  deriving DecidableEq, Repr

namespace Stop

/-- The three ways in which a running program may stop. -/
def IsFault : Stop → Prop
  | unknownOpcode .. | stackOverflow _ | stackUnderflow _ => True
  | _ => False

end Stop

/-- A fault with its word and address as integers. -/
def Fault.stop : Fault → Stop
  | unknownOpcode w a => .unknownOpcode w.toNat a.toNat
  | stackOverflow a => .stackOverflow a.toNat
  | stackUnderflow a => .stackUnderflow a.toNat

/-- A refusal of the host's operation; a fault of the program is passed on as such. -/
def Refusal.stop : Refusal → Stop
  | fault f => f.stop
  | r => .refused r

/-- The state of a machine in integers and lists. -/
structure BareMachine where
  memory : List Int
  v : List Int
  i : Int
  pc : Int
  sp : Int
  delay : Int
  sound : Int
  stack : List Int
  /-- The rows of the display, from the top. -/
  pixels : List (List Bool)
  keys : List Bool
  blocked : Bool
  switch : Switch → Json
  cyclesPerTick : Int
  /-- The integers that the random source gives, bytes or not. -/
  draws : Nat → Int
  /-- How many of them it has given. -/
  drawn : Nat
  cycles : Nat
  ticks : Nat

def IsByte (n : Int) : Prop := 0 ≤ n ∧ n ≤ 0xFF

def IsWord (n : Int) : Prop := 0 ≤ n ∧ n ≤ 0xFFFF

namespace BareMachine

/-- Every part has its size and every number fits its place. -/
structure WellFormed (s : BareMachine) : Prop where
  length_v : s.v.length = 16
  isByte_v : ∀ b ∈ s.v, IsByte b
  isWord_i : IsWord s.i
  isWord_pc : IsWord s.pc
  sp_mem : 0 ≤ s.sp ∧ s.sp ≤ 16
  isByte_delay : IsByte s.delay
  isByte_sound : IsByte s.sound
  length_stack : s.stack.length = 16
  isWord_stack : ∀ a ∈ s.stack, IsWord a
  length_memory : s.memory.length = 4096
  isByte_memory : ∀ b ∈ s.memory, IsByte b
  length_pixels : s.pixels.length = 32
  length_row : ∀ row ∈ s.pixels, row.length = 64
  length_keys : s.keys.length = 16
  one_le_cyclesPerTick : 1 ≤ s.cyclesPerTick

def isOn (s : BareMachine) (q : Switch) : Bool := (s.switch q).truthy

/-- An action on a bare machine. When it stops, the machine is left as it is at that moment. -/
abbrev Action := EStateM Stop BareMachine

/-! ## Cutting numbers -/

/-- The low eight bits of a number, in two's complement. -/
def lowByte (n : Int) : Int := n % 0x100

/-- The low sixteen bits of a number, in two's complement. -/
def lowWord (n : Int) : Int := n % 0x10000

/-- The cell that an address selects: its low twelve bits. -/
def cellOf (a : Int) : Int := a % 0x1000

/-! ## Places of lists -/

section

variable {α : Type}

/-- What a list holds at a place. -/
def element (xs : List α) (k : Int) : Action α :=
  if k < 0 then throw .noSuchPlace
  else
    match xs[k.toNat]? with
    | some a => pure a
    | none => throw .noSuchPlace

/-- A list with something else at a place. -/
def replaced (xs : List α) (k : Int) (a : α) : Action (List α) :=
  if 0 ≤ k ∧ k < xs.length then pure (xs.set k.toNat a) else throw .noSuchPlace

end

/-! ## Registers -/

def register (r : Int) : Action Int := do element (← get).v r

def setRegister (r value : Int) : Action Unit := do
  let v ← replaced (← get).v r (lowByte value)
  modify fun s => { s with v }

/-- Writes the flag register, without cutting the number to a byte. -/
def setFlag (value : Int) : Action Unit := do
  let v ← replaced (← get).v 0xF value
  modify fun s => { s with v }

def setIndex (value : Int) : Action Unit := modify fun s => { s with i := lowWord value }

def setCounter (value : Int) : Action Unit := modify fun s => { s with pc := lowWord value }

def flagNumber (c : Bool) : Int := if c then 1 else 0

/-! ## Memory -/

def readCell (address : Int) : Action Int := do element (← get).memory (cellOf address)

def writeCell (address value : Int) : Action Unit := do
  let b := lowByte value
  if b < 0 ∨ 0xFF < b then throw .noByte
  let memory ← replaced (← get).memory (cellOf address) b
  modify fun s => { s with memory }

def readWord (address : Int) : Action Word := do
  let hi ← readCell address
  let lo ← readCell (address + 1)
  return Word.ofInt (Int.lor (hi * 0x100) lo)

/-! ## Call stack -/

/-- Saves an address. The slot is written before the number of slots in use. -/
def push (address : Int) : Action Unit := do
  let s ← get
  if 16 ≤ s.sp then throw (.stackOverflow s.pc)
  let stack ← replaced s.stack s.sp (lowWord address)
  modify fun s => { s with stack }
  modify fun s => { s with sp := s.sp + 1 }

/-- Takes the last saved address. The number of slots in use is lowered before the slot is read. -/
def pop : Action Int := do
  let s ← get
  if s.sp = 0 then throw (.stackUnderflow s.pc)
  modify fun s => { s with sp := s.sp - 1 }
  let s ← get
  element s.stack s.sp

/-! ## Display -/

def darkened (rows : List (List Bool)) : List (List Bool) :=
  rows.map fun row => row.map fun _ => false

def pixel (x y : Int) : Action Bool := do
  let row ← element (← get).pixels y
  element row x

/-- Switches one pixel over. -/
def flipPixel (x y : Int) : Action Unit := do
  let rows := (← get).pixels
  let row ← element rows y
  let lit ← element row x
  let row ← replaced row x (!lit)
  let pixels ← replaced rows y row
  modify fun s => { s with pixels }

/-- Draws the set pixels among those given of one sprite row. The first one beyond the right edge
ends the row. The flag says whether a lit pixel was met so far. -/
def drawPixels (x y row : Int) : List Nat → Bool → Action Bool
  | [], hit => pure hit
  | k :: ks, hit =>
    if Grid.rowBit row k then
      if Layout.displayWidth ≤ x + k then pure hit
      else do
        let lit ← pixel (x + k) y
        flipPixel (x + k) y
        drawPixels x y row ks (hit || lit)
    else drawPixels x y row ks hit

/-- Draws the rows of a sprite. The first one beyond the lower edge ends it. -/
def drawRows (x y : Int) : List Int → Bool → Action Bool
  | [], hit => pure hit
  | row :: rows, hit =>
    if Layout.displayHeight ≤ y then pure hit
    else do
      let hit ← drawPixels x y row (List.range 8) hit
      drawRows x (y + 1) rows hit

/-! ## Keys and random numbers -/

/-- Is the key pressed that a number selects by its low four bits? -/
def keyPressed (n : Int) : Action Bool := do element (← get).keys (n % 0x10)

def firstPressed (s : BareMachine) : Option Nat := s.keys.findIdx? id

def draw : Action Int := do
  let s ← get
  modify fun s => { s with drawn := s.drawn + 1 }
  return s.draws s.drawn

end BareMachine

end ChipEight
