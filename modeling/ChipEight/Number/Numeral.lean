import ChipEight.Text.Class

/-!
# Integers written by people

The grammar of an integer as a user may type it: blanks around it, one sign, decimal digits of any
script, and single underscores between digits. The four characters that separate records of data
are no blanks here.
-/

namespace ChipEight.Numeral

open Text

/-- Longest run of digits that is converted. -/
def maxDigits : Nat := 4300

/-- Why a text is no integer. -/
inductive Error where
  /-- The text does not follow the grammar. -/
  | malformed (text : String)
  /-- The text has more digits than are converted. -/
  | tooLong (digits : Nat)
  deriving DecidableEq, Repr

/-- What is said about a text with too many digits. -/
def tooLongText (digits : Nat) : String :=
  "Exceeds the limit (" ++ toString maxDigits ++
    " digits) for integer string conversion: value has " ++ toString digits ++
    " digits; use sys.set_int_max_str_digits() to increase the limit"

/-- Digits with single underscores between them, as values; `none` for any other text. -/
def digitRun? : List Char → Option (List Nat)
  | [] => none
  | [c] => (digitValue? c).map ([·])
  | c :: '_' :: rest => do return (← digitValue? c) :: (← digitRun? rest)
  | c :: rest => do return (← digitValue? c) :: (← digitRun? rest)

/-- The number that decimal digits stand for. -/
def ofDigits (ds : List Nat) : Nat := ds.foldl (fun n d => 10 * n + d) 0

/-- A leading sign, true for minus, and the rest. -/
def splitSign : List Char → Bool × List Char
  | '-' :: rest => (true, rest)
  | '+' :: rest => (false, rest)
  | s => (false, s)

/-- May the character stand before and after an integer? -/
def isPadding (c : Char) : Bool := isBlank c && !(0x1C ≤ c.toNat && c.toNat ≤ 0x1F)

/-- Reads an integer. -/
def parse (s : String) : Except Error Int :=
  let (negative, body) := splitSign (trim isPadding s.toList)
  match digitRun? body with
  | none => .error (.malformed s)
  | some ds =>
    if maxDigits < ds.length then .error (.tooLong ds.length)
    else .ok (if negative then -(ofDigits ds : Int) else ofDigits ds)

end ChipEight.Numeral
