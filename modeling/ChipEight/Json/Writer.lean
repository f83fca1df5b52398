import ChipEight.Json.Basic
import ChipEight.Number.Hex

/-!
# Writing JSON

A value is written in ASCII: all other characters are escaped by number, in two halves when they
lie beyond the first 65536. With an indent every item and member has a line of its own; without
one the whole value is one line.
-/

namespace ChipEight.Json

/-- A UTF-16 unit by number. -/
def unitEscape (n : Nat) : List Char :=
  '\\' :: 'u' :: Hex.padLeft 4 (Nat.toDigits 16 n)

/-- One character of a string literal. -/
def escape (c : Char) : List Char :=
  if c = '"' then ['\\', '"']
  else if c = '\\' then ['\\', '\\']
  else if c = '\n' then ['\\', 'n']
  else if c = '\r' then ['\\', 'r']
  else if c = '\t' then ['\\', 't']
  else if c = '\x0c' then ['\\', 'f']
  else if c = '\x08' then ['\\', 'b']
  else if ' ' ≤ c ∧ c ≤ '~' then [c]
  else if c.toNat < 0x10000 then unitEscape c.toNat
  else
    let n := c.toNat - 0x10000
    unitEscape (0xD800 + n / 0x400) ++ unitEscape (0xDC00 + n % 0x400)

/-- A string literal. -/
def literal (s : String) : List Char := '"' :: s.toList.flatMap escape ++ ['"']

/-- Decimal digits with a minus sign if needed. -/
def integer (n : Int) : List Char :=
  if n < 0 then '-' :: Nat.toDigits 10 n.natAbs else Nat.toDigits 10 n.natAbs

/-- The words of the format for what is not a finite number. -/
def specials : Binary64.Specials := ⟨"Infinity", "NaN"⟩

def number : Number → List Char
  | .int n => integer n
  | .float x => (x.text specials).toList

/-- What separates two items at some depth: a line break and the indent, or nothing. -/
def lineBreak (indent : Option Nat) (depth : Nat) : List Char :=
  match indent with
  | none => []
  | some n => '\n' :: List.replicate (n * depth) ' '

mutual

/-- The text of a value whose first line is at some depth. -/
def write (indent : Option Nat) (depth : Nat) : Json → List Char
  | null => ['n', 'u', 'l', 'l']
  | bool true => ['t', 'r', 'u', 'e']
  | bool false => ['f', 'a', 'l', 's', 'e']
  | num n => number n
  | str s => literal s
  | arr [] => ['[', ']']
  | arr (x :: xs) =>
    '[' :: lineBreak indent (depth + 1) ++ write indent (depth + 1) x ++
      writeItems indent (depth + 1) xs ++ lineBreak indent depth ++ [']']
  | obj [] => ['\x7b', '\x7d']
  | obj ((name, x) :: ms) =>
    '\x7b' :: lineBreak indent (depth + 1) ++ literal name ++ ':' :: ' ' ::
      write indent (depth + 1) x ++
      writeMembers indent (depth + 1) ms ++ lineBreak indent depth ++ ['\x7d']

/-- The items after the first. -/
def writeItems (indent : Option Nat) (depth : Nat) : List Json → List Char
  | [] => []
  | x :: xs =>
    ',' :: lineBreak indent depth ++ write indent depth x ++ writeItems indent depth xs

/-- The members after the first. -/
def writeMembers (indent : Option Nat) (depth : Nat) : List (String × Json) → List Char
  | [] => []
  | (name, x) :: ms =>
    ',' :: lineBreak indent depth ++ literal name ++ ':' :: ' ' :: write indent depth x ++
      writeMembers indent depth ms

end

/-- The text of a value with an indent of two blanks. -/
def pretty (v : Json) : String := String.ofList (write (some 2) 0 v)

/-- The text of a value on one line. -/
def compact (v : Json) : String := String.ofList (write none 0 v)

end ChipEight.Json
