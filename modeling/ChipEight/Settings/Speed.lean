import ChipEight.Layout
import ChipEight.Number.Binary64

/-!
# Speed

How many instructions make up one timer step at a given instruction rate: the rate divided by the
tick rate, as a double, rounded up, and at least one.
-/

namespace ChipEight

/-- Instructions per tick for a rate in instructions per second, whose sign does not matter;
`none` when the quotient is beyond the largest double. -/
def cyclesForSpeed? (hz : Int) : Option Nat :=
  (Binary64.ofQuotient false hz.natAbs Layout.tickRate).ceil.map fun n => max 1 n.toNat

theorem cyclesForSpeed?_default : cyclesForSpeed? Layout.defaultSpeed = some 9 := by decide

/-- There is always at least one instruction per tick. -/
theorem one_le_of_cyclesForSpeed? {hz : Int} {n : Nat} (h : cyclesForSpeed? hz = some n) :
    1 ≤ n := by
  simp only [cyclesForSpeed?, Option.map_eq_some_iff] at h
  obtain ⟨a, _, rfl⟩ := h
  omega

end ChipEight
