import ChipEight.Number.Basic
import ChipEight.Pacing.Loop

/-!
# Clock arithmetic of doubles

Readings of the clock are numbers, due times are doubles. A reading that is an integer is compared
exactly and rounded when it is added or subtracted; one that is too large to be rounded has no
times around it. `SteadyClock` is a clock without a world behind it.
-/

namespace ChipEight

namespace Pacing

/-- The period of a tick rate: one divided by the rate as a double; `none` for an integer that is
too large to be rounded. -/
def period? (rate : Number) : Option Binary64 := rate.toBinary64?.map Binary64.recip

/-- The period of a tick rate that is a natural number. -/
def period (rate : Nat) : Binary64 := (Binary64.ofInt rate).recip

/-- What is said about a rate that is zero or below. -/
def badRateText (rate : Number) : String := "Tick rate must be positive: " ++ rate.text

/-- Is a rate zero or below? -/
def isBadRate (rate : Number) : Bool := (Number.int 0).ge rate

/-- The larger one of a double and zero; what is not a number counts as zero. -/
def orZero (x : Binary64) : Binary64 := if x.gt (.zero false) then x else .zero false

/-- A bound on the number of periods from a due time until it is past a reading. Rounding makes a
period at most half as long, so twice the quotient is enough, if the time moves at all. -/
def periodBound (now : Number) (t period : Binary64) : Nat :=
  match now, t, period with
  | _, .finite .., .finite _ m e =>
    match now.toBinary64? with
    | some x =>
      match x.sub t with
      | .finite _ n f =>
        let low := min e f
        2 * ((n <<< (f - low).toNat) / (m <<< (e - low).toNat)) + 4
      | _ => 0
    | none => 0
  | _, _, _ => 2

instance : Timeline Number Binary64 where
  after? now p := now.toBinary64?.map (·.add p)
  later := Binary64.add
  reached now t := now.ge (.float t)
  until? now t := now.toBinary64?.map fun x => orZero (t.sub x)
  zero := .zero false
  periodsTo := periodBound

/-- A scheduler for a tick rate. -/
def scheduler? (rate : Number) (maxCatchUp : Int) (enabled : Bool) :
    Option (Scheduler Binary64) :=
  (period? rate).map fun period => { period, maxCatchUp, enabled }

/-- A clock that moves on by a fixed step at each reading, and by the time slept and some more at
each sleep. -/
structure SteadyClock where
  now : Number
  step : Number
  extra : Number
  deriving DecidableEq, Repr

namespace SteadyClock

/-- Moves the clock on by a step and reads it. -/
def read? (c : SteadyClock) : Option (Number × SteadyClock) :=
  (c.now.add? c.step).map fun now => (now, { c with now })

/-- Moves the clock on by the time slept and the extra time. -/
def sleep? (time : Binary64) (c : SteadyClock) : Option SteadyClock := do
  let now ← c.now.add? (← (Number.float time).add? c.extra)
  return { c with now }

def clock : Clock SteadyClock Number Binary64 := ⟨read?, sleep?⟩

end SteadyClock

end Pacing

end ChipEight
