import ChipEight.Json.Basic
import ChipEight.Keypad.Basic
import ChipEight.Text.CaseMap
import ChipEight.Text.Quoted

/-!
# Naming keys

A host names a key by number, by a name from `KEY_0` to `KEY_F`, or by a single hexadecimal digit.
Blanks around a name and its case do not matter, and a decimal digit of any script counts. A host
keyboard has a layout that assigns keys of the keypad to its own.
-/

namespace ChipEight

/-- A reference to a key. -/
inductive KeyRef where
  | number (n : Number)
  | name (s : String)
  deriving DecidableEq, Repr

/-- Why a reference names no key. -/
inductive KeyError where
  | unknown (name : String)
  | outOfRange (n : Number)
  deriving DecidableEq, Repr

def KeyError.message : KeyError → String
  | unknown name => "Unknown key " ++ Text.quoted name
  | outOfRange n => "Key index out of range: " ++ n.text

namespace KeyRef

/-- The name of a key, in upper case. -/
def nameOf (key : Key) : List Char :=
  ['K', 'E', 'Y', '_'] ++ (Nat.toDigits 16 key).map Char.toUpper

/-- A single hexadecimal digit as a key. -/
def ofDigit? : List Char → Option Key
  | [c] => (Text.hexDigitValue? c).bind fun d =>
    if h : d < 16 then some ⟨d, h⟩ else none
  | _ => none

/-- The key of a name in upper case and without blanks around it. -/
def ofName? (s : List Char) : Option Key :=
  match (List.finRange 16).find? (nameOf · == s) with
  | some key => some key
  | none => ofDigit? s

/-- The key of a number: the number must lie between 0 and 16, then its fraction is dropped. -/
def ofNumber? (n : Number) : Option Key :=
  -- The range is checked before the fraction goes: -0.5 is out of range, 15.5 is not.
  let whole : Option Int :=
    match n with
    | .int a => if 0 ≤ a then some a else none
    | .float x => if n.ge (.int 0) then x.truncate else none
  whole.bind fun a =>
    if h : a.toNat < 16 then some ⟨a.toNat, h⟩ else none

/-- The key of a reference. -/
def index : KeyRef → Except KeyError Key
  | name s =>
    match ofName? (Text.upper (Text.strip s.toList)) with
    | some key => .ok key
    | none => .error (.unknown s)
  | number n =>
    match ofNumber? n with
    | some key => .ok key
    | none => .error (.outOfRange n)

/-- The reference that a value of a document holds; `true` and `false` count as 1 and 0. -/
def ofJson? : Json → Option KeyRef
  | .str s => some (.name s)
  | v => v.number?.map .number

end KeyRef

/-! ## Host keyboard -/

namespace HostKeyboard

/-- The four left columns of a keyboard. `z` and `y` are the same key, since some keyboards have
them exchanged. -/
def standard : List (String × Key) :=
  List.map (fun (name, digit) => (name, .ofNat digit)) [
  ("1", 0x1), ("2", 0x2), ("3", 0x3), ("4", 0xC),
  ("q", 0x4), ("w", 0x5), ("e", 0x6), ("r", 0xD),
  ("a", 0x7), ("s", 0x8), ("d", 0x9), ("f", 0xE),
  ("z", 0xA), ("y", 0xA), ("x", 0x0), ("c", 0xB), ("v", 0xF)]

/-- What a layout assigns to a host key, whose name is taken in lower case. -/
def lookup? {α : Type} (layout : List (String × α)) (hostKey : String) : Option α :=
  let name := String.ofList (Text.lower hostKey.toList)
  (layout.find? (·.1 == name)).map (·.2)

/-- What a layout assigns to a host key; an empty layout means the standard one. -/
def keyOf? (layout : List (String × Json)) (hostKey : String) : Option Json :=
  if layout.isEmpty then (lookup? standard hostKey).map fun k => .int k.val
  else lookup? layout hostKey

end HostKeyboard

end ChipEight
