/-!
# Double precision numbers

A double is a signed dyadic number, an infinity or not a number. The arithmetic is exact
arithmetic on `Nat` and `Int` followed by one rounding to the nearest double, a tie going to the
even mantissa, so that every result can be computed and reasoned about without hardware.

* `Binary64.ofQuotient` rounds a quotient of naturals;
* `Binary64.ofBits` and `Binary64.toBits` are the interchange format.
-/

namespace ChipEight

/-- A double. A finite one is `mantissa * 2 ^ exponent`, negated when `negative`; the functions of
this library only build mantissas below `2 ^ 53` and exponents from `-1074`. -/
inductive Binary64 where
  | finite (negative : Bool) (mantissa : Nat) (exponent : Int)
  | infinite (negative : Bool)
  | nan (negative : Bool)
  deriving DecidableEq, Repr, Inhabited

namespace Binary64

/-- The least mantissa of 53 bits, `2 ^ 52`. The interchange format leaves its one bit out. -/
def hiddenBit : Nat := 1 <<< 52

/-- The least number of more than 53 bits, `2 ^ 53`. -/
def mantissaBound : Nat := 1 <<< 53

/-- The exponent of the smallest doubles. -/
def minExponent : Int := -1074

/-- The largest exponent of a finite double. -/
def maxExponent : Int := 971

/-- Zero, which keeps a sign. -/
def zero (negative : Bool) : Binary64 := .finite negative 0 minExponent

/-! ## Rounding -/

/-- The natural number nearest to `num / den`; a tie goes to the even one. -/
def roundDiv (num den : Nat) : Nat :=
  let q := num / den
  let r := num % den
  if den < 2 * r ∨ (2 * r = den ∧ q % 2 = 1) then q + 1 else q

/-- `num / den` in units of `2 ^ e`, as a fraction. -/
def scaled (num den : Nat) (e : Int) : Nat × Nat :=
  if 0 ≤ e then (num, den <<< e.toNat) else (num <<< (-e).toNat, den)

/-- The exponent at which `num / den` has a mantissa of 53 bits, or the smallest exponent when
the value is too small for that. -/
def exponentOf (num den : Nat) : Int :=
  let k : Int := (Nat.log2 num : Int) - (Nat.log2 den : Int)
  let e := max (k - 53) minExponent
  let (a, b) := scaled num den e
  if mantissaBound ≤ a / b then e + 1 else e

/-- The double with this mantissa of at most 53 bits plus one carry, or an infinity when the
exponent is out of range. -/
def pack (negative : Bool) (mantissa : Nat) (exponent : Int) : Binary64 :=
  let (m, e) := 
    if mantissaBound ≤ mantissa then (mantissa / 2, exponent + 1) else (mantissa, exponent)
  if maxExponent < e then .infinite negative else .finite negative m e

/-- The double nearest to `num / den` with the given sign; beyond the largest finite double it is
an infinity. -/
def ofQuotient (negative : Bool) (num den : Nat) : Binary64 :=
  if num = 0 then zero negative
  else
    let e := exponentOf num den
    let (a, b) := scaled num den e
    pack negative (roundDiv a b) e

/-- The double nearest to `m * 2 ^ e`. -/
def ofDyadic (negative : Bool) (m : Nat) (e : Int) : Binary64 :=
  if m = 0 then zero negative
  else
    -- The exponent at which `m` has 53 bits, or the least one there is.
    let unit := max (e + Nat.log2 m - 52) minExponent
    if unit ≤ e then pack negative (m <<< (e - unit).toNat) unit
    else pack negative (roundDiv m (1 <<< (unit - e).toNat)) unit

/-- The double nearest to an integer. -/
def ofInt (n : Int) : Binary64 := ofDyadic (n < 0) n.natAbs 0

/-- The double nearest to `digits * 10 ^ e`. Exponents far out of range are decided by the number
of digits alone. -/
def ofDecimal (negative : Bool) (digits : Nat) (e : Int) : Binary64 :=
  let size : Int := (Nat.toDigits 10 digits).length
  if digits = 0 ∨ e + size < -400 then zero negative
  else if 400 < e + size then .infinite negative
  else if 0 ≤ e then ofQuotient negative (digits * Nat.pow 10 e.toNat) 1
  else ofQuotient negative digits (Nat.pow 10 (-e).toNat)

/-! ## Views -/

def isNaN : Binary64 → Bool
  | nan _ => true
  | _ => false

/-- Neither an infinity nor not a number. -/
def isFinite : Binary64 → Bool
  | finite .. => true
  | _ => false

/-- The sign bit. -/
def isNegative : Binary64 → Bool
  | finite s _ _ => s
  | infinite s => s
  | nan s => s

/-- Either zero. -/
def isZero : Binary64 → Bool
  | finite _ m _ => m == 0
  | _ => false

/-- The mantissa with its sign. -/
def signed (negative : Bool) (m : Nat) : Int := if negative then -(m : Int) else m

/-- Drops the fraction; `none` for infinities and for what is not a number. -/
def truncate : Binary64 → Option Int
  | finite s m e =>
    some (signed s (if 0 ≤ e then m <<< e.toNat else m >>> (-e).toNat))
  | _ => none

/-- The least integer that is not smaller; `none` for infinities and for what is not a number. -/
def ceil : Binary64 → Option Int
  | finite s m e =>
    some (if 0 ≤ e then signed s (m <<< e.toNat) else -((-(signed s m)) >>> (-e).toNat))
  | _ => none

/-! ## Order -/

/-- Brings two dyadic numbers to the smaller exponent. -/
def align (m : Nat) (e : Int) (n : Nat) (f : Int) : Nat × Nat :=
  let low := min e f
  (m <<< (e - low).toNat, n <<< (f - low).toNat)

/-- Compares two dyadic numbers with signs. Zeros of either sign are equal. -/
def compareDyadic (s : Bool) (m : Nat) (e : Int) (t : Bool) (n : Nat) (f : Int) : Ordering :=
  let (a, b) := align m e n f
  match s, t with
  | false, false => compare a b
  | true, true => compare b a
  | false, true => if a = 0 ∧ b = 0 then .eq else .gt
  | true, false => if a = 0 ∧ b = 0 then .eq else .lt

/-- The order of the values; `none` when one of the two is not a number. -/
def compare? : Binary64 → Binary64 → Option Ordering
  | nan _, _ => none
  | _, nan _ => none
  | infinite s, infinite t => some (compare t.toNat s.toNat)
  | infinite s, _ => some (if s then .lt else .gt)
  | _, infinite t => some (if t then .gt else .lt)
  | finite s m e, finite t n f => some (compareDyadic s m e t n f)

/-- The order of a double and an integer, which is compared exactly. -/
def compareInt? : Binary64 → Int → Option Ordering
  | nan _, _ => none
  | infinite s, _ => some (if s then .lt else .gt)
  | finite s m e, n => some (compareDyadic s m e (n < 0) n.natAbs 0)

/-- Is the first one greater? -/
def gt (a b : Binary64) : Bool := compare? a b == some .gt

/-! ## Arithmetic -/

def neg : Binary64 → Binary64
  | finite s m e => .finite (!s) m e
  | infinite s => .infinite (!s)
  | nan s => .nan (!s)

/-- The rounded sum. An operand that is not a number is passed on, the first one before the
second; two opposite infinities give the negative `nan`. -/
def add : Binary64 → Binary64 → Binary64
  | nan s, _ => .nan s
  | _, nan t => .nan t
  | infinite s, infinite t => if s == t then .infinite s else .nan true
  | infinite s, _ => .infinite s
  | _, infinite t => .infinite t
  | finite s m e, finite t n f =>
    let (a, b) := align m e n f
    let low := min e f
    if s = t then ofDyadic s (a + b) low
    else if a = b then zero false
    else if b < a then ofDyadic s (a - b) low
    else ofDyadic t (b - a) low

/-- The rounded difference; an operand that is not a number keeps its sign. -/
def sub (a b : Binary64) : Binary64 := if b.isNaN then add a b else add a (neg b)

/-- The rounded quotient `1 / a`. -/
def recip : Binary64 → Binary64
  | nan s => .nan s
  | infinite s => zero s
  | finite s m e =>
    if m = 0 then .infinite s
    else if 0 ≤ e then ofQuotient s 1 (m <<< e.toNat)
    else ofQuotient s (1 <<< (-e).toNat) m

/-! ## Interchange format -/

/-- Reads the 64 bits: sign, eleven bits of exponent, 52 bits of fraction. -/
def ofBits (bits : UInt64) : Binary64 :=
  let n : Nat := bits.toNat
  let s : Bool := 1 <<< 63 ≤ n
  let e : Nat := (n >>> 52) % 2048
  let f : Nat := n % hiddenBit
  if e = 2047 then if f = 0 then .infinite s else .nan s
  else if e = 0 then .finite s f minExponent
  else .finite s (f + hiddenBit) ((e : Int) - 1075)

/-- Writes the 64 bits; every `nan` is written as the quiet one of its sign. -/
def toBits (x : Binary64) : UInt64 :=
  let sign : Nat := if x.isNegative then 1 <<< 63 else 0
  UInt64.ofNat <| sign + match x with
    | nan _ => 2047 <<< 52 + 1 <<< 51
    | infinite _ => 2047 <<< 52
    | finite _ m e => if m < hiddenBit then m else (e + 1075).toNat <<< 52 + (m - hiddenBit)

end Binary64

end ChipEight
