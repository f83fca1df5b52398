import ChipEight.Number.Shortest

/-!
# Numbers

A number is an integer of any size or a double. The two kinds are compared exactly, by value.
-/

namespace ChipEight

/-- An integer or a double. -/
inductive Number where
  | int (n : Int)
  | float (x : Binary64)
  deriving DecidableEq, Repr, Inhabited

namespace Number

/-- The order of the values; `none` when one of the two is not a number. -/
def compare? : Number → Number → Option Ordering
  | int a, int b => some (compare a b)
  | int a, float b => (b.compareInt? a).map Ordering.swap
  | float a, int b => a.compareInt? b
  | float a, float b => a.compare? b

/-- Is the first one greater than or equal to the second? -/
def ge (a b : Number) : Bool :=
  match compare? a b with
  | some .gt | some .eq => true
  | _ => false

/-- Equal by value; what is not a number equals itself. -/
def same (a b : Number) : Bool :=
  match a, b with
  | float x, float y => (x.isNaN && y.isNaN) || x.compare? y == some .eq
  | _, _ => compare? a b == some .eq

def isZero : Number → Bool
  | int n => n == 0
  | float x => x.isZero

/-- The double nearest to the number; `none` for an integer beyond the largest finite double. -/
def toBinary64? : Number → Option Binary64
  | int n =>
    let x := Binary64.ofInt n
    if x.isFinite then some x else none
  | float x => some x

/-- The sum: exact for two integers, rounded once a double takes part; `none` for an integer that
is too large to meet a double. -/
def add? : Number → Number → Option Number
  | int a, int b => some (int (a + b))
  | a, b => do return float (Binary64.add (← a.toBinary64?) (← b.toBinary64?))

/-- How messages show a number. -/
def text : Number → String
  | int n => toString n
  | float x => x.text ⟨"inf", "nan"⟩

end Number

end ChipEight
