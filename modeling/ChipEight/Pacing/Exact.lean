import ChipEight.Pacing.Scheduler
import Mathlib.Data.Rat.Floor

/-!
# Exact clock arithmetic

Times as rational numbers. No sum is rounded and every time exists, so that the scheduler can be
compared with plain counting: how many multiples of the period lie between two readings.
-/

namespace ChipEight.Pacing

/-- A number of periods after which a due time is past a reading; only a positive period ever gets
there. -/
def periodsPast (now t period : ℚ) : ℕ :=
  if 0 < period then ⌊(now - t) / period⌋₊ + 1 else 0

instance : Timeline ℚ ℚ where
  after? now period := some (now + period)
  later t period := t + period
  reached now t := decide (t ≤ now)
  until? now t := some (max (t - now) 0)
  zero := 0
  periodsTo := periodsPast

/-- After that many periods a due time is past the reading. -/
theorem lt_add_periodsPast (now t : ℚ) {period : ℚ} (h : 0 < period) :
    now < t + periodsPast now t period * period := by
  have hlt : (now - t) / period < periodsPast now t period := by
    simpa [periodsPast, h] using Nat.lt_floor_add_one ((now - t) / period)
  rw [div_lt_iff₀ h] at hlt
  linarith

end ChipEight.Pacing
