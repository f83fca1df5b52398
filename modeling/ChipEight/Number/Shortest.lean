import ChipEight.Number.Binary64

/-!
# Shortest decimal text of a double

The text of a double shows the fewest digits that read back as the same double and, of those, the
ones nearest to it. Numbers from `0.0001` up to but not including `10 ^ 16` are written
positionally, all others with an exponent of at least two digits.

Reading back is `Binary64.ofDecimal`, so the digits are found by asking, for one digit, two
digits and so on, whether one of the two neighbours of the value on that decimal grid reads back.
-/

namespace ChipEight.Binary64

/-- A positive decimal `digits * 10 ^ exponent`. -/
structure Decimal where
  digits : Nat
  exponent : Int
  deriving DecidableEq, Repr

/-- The `k` with `10 ^ k ≤ num / den < 10 ^ (k + 1)`. -/
def leadingExponent (num den : Nat) : Int :=
  if den ≤ num then ((Nat.toDigits 10 (num / den)).length : Int) - 1
  else
    let size := (Nat.toDigits 10 (den / num)).length
    if den ≤ num * Nat.pow 10 (size - 1) then 1 - size else -size

/-- The value as a fraction. -/
def fraction (m : Nat) (e : Int) : Nat × Nat :=
  if 0 ≤ e then (m <<< e.toNat, 1) else (m, 1 <<< (-e).toNat)

/-- `num / den` in units of `10 ^ p`, as a fraction. -/
def inDecimalUnits (num den : Nat) (p : Int) : Nat × Nat :=
  if 0 ≤ p then (num, den * Nat.pow 10 p.toNat) else (num * Nat.pow 10 (-p).toNat, den)

/-- The neighbour of `num / den` on the grid of multiples of `10 ^ p` that reads back as `target`,
the nearer one if both do, the even one if both are as near. -/
def onGrid? (target : Binary64) (num den : Nat) (p : Int) : Option Decimal :=
  let (a, b) := inDecimalUnits num den p
  let low := a / b
  let r := a % b
  let reads (c : Nat) : Bool := ofDecimal false c p == target
  -- The nearer neighbour comes first; it need not be the one that reads back.
  let lowFirst := 2 * r < b || (2 * r == b && low % 2 == 0)
  if lowFirst && reads low then some ⟨low, p⟩
  else if reads (low + 1) then some ⟨low + 1, p⟩
  else if reads low then some ⟨low, p⟩
  else none

/-- The shortest decimal of a positive double `m * 2 ^ e`. Seventeen digits always read back. -/
def shortest (m : Nat) (e : Int) : Decimal :=
  let (num, den) := fraction m e
  let k := leadingExponent num den
  let grids := (List.range 17).map fun (n : Nat) => k - n
  (grids.findSome? (onGrid? (.finite false m e) num den)).getD ⟨0, 0⟩

/-- Drops trailing zeros; an empty text stays empty. -/
def dropZeros (ds : List Char) : List Char := (ds.reverse.dropWhile (· == '0')).reverse

/-- Text of the digits `ds`, the first of which stands for `10 ^ k`. -/
def layout (ds : List Char) (k : Int) : List Char :=
  if 0 ≤ k ∧ k < 16 then
    let whole := k.toNat + 1
    let fraction := ds.drop whole
    ds.take whole ++ List.replicate (whole - ds.length) '0' ++ '.' ::
      (if fraction.isEmpty then ['0'] else fraction)
  else if -4 ≤ k ∧ k < 0 then
    '0' :: '.' :: List.replicate ((-k).toNat - 1) '0' ++ ds
  else
    let size := Nat.toDigits 10 k.natAbs
    ds.take 1 ++ (if ds.length ≤ 1 then [] else '.' :: ds.drop 1) ++
      ['e', if k < 0 then '-' else '+'] ++ List.replicate (2 - size.length) '0' ++ size

/-- The words for what is not a finite number. -/
structure Specials where
  infinity : String
  nan : String

/-- The text of a double. A zero keeps its sign. -/
def text (words : Specials) : Binary64 → String
  | nan _ => words.nan
  | infinite s => (if s then "-" else "") ++ words.infinity
  | finite s m e =>
    let body :=
      if m = 0 then ['0', '.', '0']
      else
        let d := shortest m e
        let ds := Nat.toDigits 10 d.digits
        layout (dropZeros ds) (d.exponent + (ds.length - 1))
    (if s then "-" else "") ++ String.ofList body

end ChipEight.Binary64
