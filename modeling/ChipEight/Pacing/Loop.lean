import ChipEight.Machine.Cycle
import ChipEight.Pacing.Scheduler

/-!
# Paced runs

Running a number of ticks at the pace of a clock. In turn the host reads its clock, runs the ticks
that are due, reads the clock again and sleeps until the next tick is due.

`Pace.serve?` and `Pace.pause?` are the two halves of one turn, and `Pace.run` repeats turns on a
clock that is itself a value. The clock may be any: the ticks that are run do not depend on it.
-/

namespace ChipEight

/-- A clock as a state machine with states `κ`. Both functions give `none` when the clock has no
such time. -/
structure Clock (κ ρ τ : Type) where
  read? : κ → Option (ρ × κ)
  sleep? : τ → κ → Option κ

/-- A paced run under way. -/
structure Pace (τ σ : Type) where
  scheduler : Scheduler τ
  /-- Ticks that are still to be run. -/
  left : Nat
  machine : Machine
  /-- What the watcher has collected. -/
  trace : σ

namespace Pace

variable {κ ρ τ σ : Type} [Timeline ρ τ] (watch : Machine → σ → σ)

/-- The first half of a turn: runs the ticks that are due at a reading, but no more than are left.
`none` when a time that is needed does not exist. -/
def serve? (now : ρ) (p : Pace τ σ) : Option (Pace τ σ × Option Fault) :=
  (p.scheduler.due? now).map fun (due, scheduler) =>
    let n := min due.toNat p.left
    let (outcome, trace) := Machine.watchRun watch n p.machine p.trace
    ({ scheduler, left := p.left - n, machine := outcome.machine, trace }, outcome.fault?)

/-- The second half of a turn: how long to sleep from a reading on. -/
def pause? (now : ρ) (p : Pace τ σ) : Option τ := p.scheduler.untilNext? now

/-- How a paced run ended. -/
inductive Ending where
  /-- All ticks were run, or a fault stopped the machine. -/
  | done (fault? : Option Fault)
  /-- A time that was needed does not exist. -/
  | noTime
  /-- The turns that were allowed were not enough. -/
  | impatient
  deriving DecidableEq

/-- A paced run that is over: the state of the run, the clock, and how often the host slept. -/
structure Result (κ τ σ : Type) where
  pace : Pace τ σ
  clock : κ
  sleeps : Nat
  ending : Ending

/-- Repeats turns until no ticks are left; the first argument bounds their number. -/
def run (c : Clock κ ρ τ) : Nat → Pace τ σ → κ → Nat → Result κ τ σ
  | 0, p, k, sleeps => ⟨p, k, sleeps, if p.left = 0 then .done none else .impatient⟩
  | fuel + 1, p, k, sleeps =>
    if p.left = 0 then ⟨p, k, sleeps, .done none⟩
    else
      match c.read? k with
      | none => ⟨p, k, sleeps, .noTime⟩
      | some (now, k) =>
        match p.serve? watch now with
        | none => ⟨p, k, sleeps, .noTime⟩
        | some (p, some fault) => ⟨p, k, sleeps, .done (some fault)⟩
        | some (p, none) =>
          match c.read? k with
          | none => ⟨p, k, sleeps, .noTime⟩
          | some (again, k) =>
            match (p.pause? again).bind (c.sleep? · k) with
            | none => ⟨p, k, sleeps, .noTime⟩
            | some k => run c fuel p k (sleeps + 1)

end Pace

end ChipEight
