import ChipEight.Json.Basic
import ChipEight.Number.Numeral
import ChipEight.Settings.Speed
import ChipEight.Text.CaseMap
import ChipEight.Text.Quoted

/-!
# Settings

Five switches that select between variants of instructions, and the number of instructions in a
tick. A switch may hold any value of a document and counts by whether that value is truthy; the
number of instructions is always at least one.

Four of the switches have a letter: `j`, `m`, `s` and `r`.
-/

namespace ChipEight

/-- A switch between two variants of some instructions. -/
inductive Switch where
  /-- The logical instructions clear VF. -/
  | vfReset
  /-- Storing and loading registers advances I. -/
  | memory
  /-- The shifts shift VX in place instead of reading VY. -/
  | shifting
  /-- The jump with an offset adds VX instead of V0. -/
  | jumping
  /-- Adding to I sets VF when the sum is larger than a word. -/
  | indexOverflow
  deriving DecidableEq, Repr

namespace Switch

def all : List Switch := [vfReset, memory, shifting, jumping, indexOverflow]

/-- The name of a switch in documents. -/
def name : Switch → String
  | vfReset => "vf_reset"
  | memory => "memory"
  | shifting => "shifting"
  | jumping => "jumping"
  | indexOverflow => "index_overflow"

/-- The switch of a name. -/
def ofName? (s : String) : Option Switch := all.find? (·.name == s)

@[simp]
theorem ofName?_name (q : Switch) : ofName? q.name = some q := by
  cases q <;> decide

/-- The switches that have a letter, in the order in which letters are listed. -/
def lettered : List (Char × Switch) :=
  [('j', jumping), ('m', memory), ('s', shifting), ('r', vfReset)]

/-- The switch of a letter in lower case. -/
def ofLetter? (c : Char) : Option Switch := lettered.lookup c

end Switch

/-- The settings. -/
structure Settings where
  vfReset : Json := .bool false
  memory : Json := .bool false
  shifting : Json := .bool false
  jumping : Json := .bool false
  cycles : Nat := 9
  indexOverflow : Json := .bool false
  one_le_cycles : 1 ≤ cycles := by decide

namespace Settings

/-- All switches off and nine instructions in a tick. -/
def standard : Settings := {}

instance : Inhabited Settings := ⟨standard⟩

/-- The value of a switch. -/
def get (s : Settings) : Switch → Json
  | .vfReset => s.vfReset
  | .memory => s.memory
  | .shifting => s.shifting
  | .jumping => s.jumping
  | .indexOverflow => s.indexOverflow

/-- Gives a switch a value. -/
def set (s : Settings) (q : Switch) (v : Json) : Settings :=
  match q with
  | .vfReset => { s with vfReset := v }
  | .memory => { s with memory := v }
  | .shifting => { s with shifting := v }
  | .jumping => { s with jumping := v }
  | .indexOverflow => { s with indexOverflow := v }

/-- Is a switch on? -/
def isOn (s : Settings) (q : Switch) : Bool := (s.get q).truthy

/-- Turns a switch on. -/
def turnOn (s : Settings) (q : Switch) : Settings := s.set q (.bool true)

/-- The name of the number of instructions in a tick. -/
def cyclesName : String := "cycles"

/-- The values by name, in the order in which documents list them. -/
def fields (s : Settings) : List (String × Json) := [
  (Switch.vfReset.name, s.vfReset), (Switch.memory.name, s.memory),
  (Switch.shifting.name, s.shifting), (Switch.jumping.name, s.jumping),
  (cyclesName, .int s.cycles), (Switch.indexOverflow.name, s.indexOverflow)]

/-- Equality by value. -/
def same (s t : Settings) : Bool :=
  Json.sameItems (s.fields.map (·.2)) (t.fields.map (·.2))

/-! ## Instructions in a tick -/

/-- Why a value is no number of instructions. -/
inductive CyclesError where
  /-- The value is neither a number nor a text. -/
  | notNumber
  | notANumber
  | infinite
  | numeral (e : Numeral.Error)
  deriving DecidableEq, Repr

def CyclesError.message : CyclesError → String
  | notNumber => "the number of cycles must be a number or a text"
  | notANumber => "cannot convert float NaN to integer"
  | infinite => "cannot convert float infinity to integer"
  | numeral (.malformed s) =>
    "invalid literal for int() with base 10: " ++
      String.ofList ((Text.quoted s).toList.take 200)
  | numeral (.tooLong n) => Numeral.tooLongText n

/-- The integer that a value stands for: the fraction of a double is dropped, a text is read. -/
def integerOf : Json → Except CyclesError Int
  | .num (.int n) => .ok n
  | .bool b => .ok b.toNat
  | .num (.float x) =>
    match x.truncate with
    | some n => .ok n
    | none => .error (if x.isNaN then .notANumber else .infinite)
  | .str s =>
    match Numeral.parse s with
    | .ok n => .ok n
    | .error e => .error (.numeral e)
  | _ => .error .notNumber

/-- Sets the number of instructions in a tick, raised to one. -/
def withCycles (s : Settings) (n : Int) : Settings :=
  { s with cycles := max 1 n.toNat, one_le_cycles := Nat.le_max_left .. }

/-- Sets the number of instructions in a tick for an instruction rate. -/
def withSpeed? (s : Settings) (hz : Int) : Option Settings :=
  (cyclesForSpeed? hz).map fun n => s.withCycles n

/-- Gives a value to the setting of a name. Names of no setting are passed over. -/
def assign (s : Settings) (name : String) (v : Json) : Except CyclesError Settings :=
  if name = cyclesName then (integerOf v).map s.withCycles
  else
    match Switch.ofName? name with
    | some q => .ok (s.set q v)
    | none => .ok s

/-! ## Letters -/

/-- The switch of a character: the letter in either case. -/
def switchOf? (c : Char) : Option Switch :=
  match Text.lowerChar c with
  | [l] => Switch.ofLetter? l
  | _ => none

/-- Turns on the switches whose letters are in the text. -/
def withLetters (s : Settings) (letters : String) : Settings :=
  (letters.toList.filterMap switchOf?).foldl turnOn s

/-- The default settings with the switches of a text of letters on. -/
def ofLetters (letters : String) : Settings := standard.withLetters letters

/-- The settings of a text of letters, for an instruction rate if one is given. -/
def ofLettersAt? (letters : String) (speed : Option Int) : Option Settings :=
  match speed with
  | none => some (ofLetters letters)
  | some hz => (ofLetters letters).withSpeed? hz

/-- The characters of a text that are no letter of a switch. -/
def unknownLetters (letters : String) : List Char :=
  letters.toList.filter fun c => (switchOf? c).isNone

/-- What is said about a character that is no letter of a switch. -/
def unknownLetterText (c : Char) : String :=
  "Ignoring unknown quirk letter " ++ Text.quoted (String.singleton c)

/-- The letters of the switches that are on. -/
def letters (s : Settings) : String :=
  String.ofList ((Switch.lettered.filter fun (_, q) => s.isOn q).map (·.1))

/-- Turns on the switches with a letter that are on in `extra`. -/
def turnOnFrom (s extra : Settings) : Settings :=
  ((Switch.lettered.map (·.2)).filter extra.isOn).foldl turnOn s

/-! ## Toggling -/

/-- The switch that a letter or a name means. Letters must be in lower case. -/
def resolve? (name : String) : Option Switch :=
  match name.toList with
  | [c] => Switch.ofLetter? c
  | _ => Switch.ofName? name

/-- What is said when a name means no switch that holds `true` or `false`. -/
def unknownSwitchText (name : String) : String := "Unknown quirk: " ++ name

/-- Turns a switch over and returns its new value with the settings; `none` when the name means no
switch that holds `true` or `false`. -/
def toggle? (s : Settings) (name : String) : Option (Bool × Settings) :=
  match resolve? name with
  | none => none
  | some q =>
    match s.get q with
    | .bool b => some (!b, s.set q (.bool !b))
    | _ => none

/-! ## Laws of the view -/

@[simp]
theorem get_set_self (s : Settings) (q : Switch) (v : Json) : (s.set q v).get q = v := by
  cases q <;> rfl

theorem get_set_of_ne (s : Settings) {q r : Switch} (v : Json) (h : q ≠ r) :
    (s.set q v).get r = s.get r := by
  cases q <;> cases r <;> first | rfl | exact absurd rfl h

@[simp]
theorem cycles_set (s : Settings) (q : Switch) (v : Json) : (s.set q v).cycles = s.cycles := by
  cases q <;> rfl

@[simp]
theorem get_withCycles (s : Settings) (n : Int) (q : Switch) : (s.withCycles n).get q = s.get q := by
  cases q <;> rfl

/-- Settings are known by the values of their switches and the number of instructions. -/
theorem ext_get {s t : Settings} (hget : ∀ q, s.get q = t.get q) (hcycles : s.cycles = t.cycles) :
    s = t := by
  have h₁ := hget .vfReset
  have h₂ := hget .memory
  have h₃ := hget .shifting
  have h₄ := hget .jumping
  have h₅ := hget .indexOverflow
  cases s
  cases t
  simp only [get] at h₁ h₂ h₃ h₄ h₅ hcycles
  subst h₁ h₂ h₃ h₄ h₅ hcycles
  rfl

end Settings

end ChipEight
