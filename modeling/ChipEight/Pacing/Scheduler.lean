/-!
# Tick scheduler

How many ticks are due at a reading of the host's clock. The scheduler keeps the time at which the
next tick is due and moves it on by one period for every tick that it hands out. A host that fell
far behind gets no more than `maxCatchUp` ticks at once.

The arithmetic of times is a parameter, `Timeline`: one instance rounds as doubles do, another is
exact.
-/

namespace ChipEight

/-- Arithmetic with readings of a clock, of type `ρ`, and times at which ticks are due, of type
`τ`. -/
class Timeline (ρ : Type) (τ : outParam Type) where
  /-- A reading plus a period; `none` when there is no such time. -/
  after? : ρ → τ → Option τ
  /-- A due time plus a period. -/
  later : τ → τ → τ
  /-- Has a reading reached a due time? -/
  reached : ρ → τ → Bool
  /-- How long from a reading until a due time, and zero when it has passed; `none` when there is
  no such time. -/
  until? : ρ → τ → Option τ
  /-- No time at all. -/
  zero : τ
  /-- A number of periods after which a due time is past a reading, if it ever is: reading, due
  time, period. -/
  periodsTo : ρ → τ → τ → Nat

/-- The state of a scheduler. -/
structure Scheduler (τ : Type) where
  /-- Time between two ticks. -/
  period : τ
  maxCatchUp : Int := 4
  enabled : Bool := true
  /-- When the next tick is due; nothing is due before the clock has been read. -/
  next? : Option τ := none

namespace Scheduler

variable {ρ τ : Type} [Timeline ρ τ]

/-- Counts periods from a reading on; `none` when there is no such time. -/
def reset? (s : Scheduler τ) (now : ρ) : Option (Scheduler τ) :=
  (Timeline.after? now s.period).map fun t => { s with next? := some t }

/-- Moves a due time past a reading and counts the periods. The first argument bounds their
number. -/
def overtake (now : ρ) (period : τ) : Nat → τ → Nat → Nat × τ
  | 0, t, count => (count, t)
  | fuel + 1, t, count =>
    if Timeline.reached now t then overtake now period fuel (Timeline.later ρ t period) (count + 1)
    else (count, t)

/-- The number of ticks that are due at a reading, and the scheduler after it; `none` when a time
that is needed does not exist. -/
def due? (s : Scheduler τ) (now : ρ) : Option (Int × Scheduler τ) :=
  if s.enabled then
    match s.next? with
    -- The first reading is itself a tick.
    | none => (s.reset? now).map (1, ·)
    | some t =>
      let (count, t) := overtake now s.period (Timeline.periodsTo now t s.period) t 0
      let moved := { s with next? := some t }
      -- Too far behind: the ticks beyond the limit are dropped, and counting starts anew.
      if s.maxCatchUp < count then (moved.reset? now).map (s.maxCatchUp, ·)
      else some (count, moved)
  else some (0, s)

/-- How long from a reading until the next tick is due; `none` when there is no such time. -/
def untilNext? (s : Scheduler τ) (now : ρ) : Option τ :=
  match s.next? with
  | none => some (Timeline.zero ρ)
  | some t => Timeline.until? now t

end Scheduler

end ChipEight
