/-!
# Hexadecimal text

Hexadecimal numbers of a least width, as reports and messages show them, and bytes as pairs of
digits.
-/

namespace ChipEight.Hex

/-- Puts zeros in front until the text has the given width. -/
def padLeft (width : Nat) (s : List Char) : List Char :=
  List.replicate (width - s.length) '0' ++ s

/-- Lower case digits, at least `width` of them. -/
def lower (width n : Nat) : String := String.ofList (padLeft width (Nat.toDigits 16 n))

/-- Upper case digits, at least `width` of them. -/
def upper (width n : Nat) : String :=
  String.ofList ((padLeft width (Nat.toDigits 16 n)).map Char.toUpper)

/-- Upper case digits of an integer; the width includes a minus sign. -/
def upperInt (width : Nat) (n : Int) : String :=
  if n < 0 then "-" ++ upper (width - 1) n.natAbs else upper width n.natAbs

/-- Bytes as pairs of lower case digits. -/
def ofBytes (bytes : List UInt8) : String :=
  String.ofList (bytes.flatMap fun b => padLeft 2 (Nat.toDigits 16 b.toNat))

/-- The value of a hexadecimal digit. -/
def digit? (c : Char) : Option Nat :=
  if '0' ≤ c ∧ c ≤ '9' then some (c.toNat - '0'.toNat)
  else if 'a' ≤ c ∧ c ≤ 'f' then some (c.toNat - 'a'.toNat + 10)
  else if 'A' ≤ c ∧ c ≤ 'F' then some (c.toNat - 'A'.toNat + 10)
  else none

/-- The bytes that pairs of digits stand for. -/
def bytes? : List Char → Option (List UInt8)
  | [] => some []
  | [_] => none
  | a :: b :: rest => do
    return UInt8.ofNat (16 * (← digit? a) + (← digit? b)) :: (← bytes? rest)

/-- The number that digits stand for. -/
def number? (s : List Char) : Option Nat :=
  if s.isEmpty then none
  else s.foldl (fun n c => do return 16 * (← n) + (← digit? c)) (some 0)

end ChipEight.Hex
