import ChipEight.Machine.Execute

/-!
# Cycles, ticks and runs

A cycle fetches, decodes and carries out one instruction. A tick is a number of cycles given by
the settings, after which both timers count down once. A run is a number of ticks. A fault ends a
run at once and leaves the machine as it was before the faulting instruction.
-/

namespace ChipEight.Machine

/-- The instruction at `PC`. -/
def currentOp (m : Machine) : Op := decode m.fetch

/-- What keeps the next cycle from being carried out. -/
def fault? (m : Machine) : Option Fault := m.faultOf? m.currentOp m.fetch

/-- Moves `PC` on and counts the cycle. -/
def finish (m : Machine) (distance : Word) : Machine :=
  { m with pc := m.pc + distance, cycles := m.cycles + 1 }

/-- The machine after one cycle without a fault. -/
def cycle (m : Machine) : Machine :=
  let w := m.fetch
  let op := decode w
  let distance := m.advance op w
  (m.effect op w).finish distance

/-- One cycle. -/
def cycle? (m : Machine) : Except Fault Machine :=
  match m.fault? with
  | some fault => .error fault
  | none => .ok m.cycle

/-- One count of a timer, which stops at zero. -/
def countDown (t : UInt8) : UInt8 := if 0 < t then t - 1 else 0

/-- The end of a tick: both timers count down. -/
def timerStep (m : Machine) : Machine :=
  { m with delay := countDown m.delay, sound := countDown m.sound, ticks := m.ticks + 1 }

/-- How a run ended: the machine it left behind, and the fault that ended it early. -/
structure Outcome where
  machine : Machine
  fault? : Option Fault

/-- Up to `n` cycles. -/
def runCycles : Nat → Machine → Outcome
  | 0, m => ⟨m, none⟩
  | n + 1, m =>
    match m.fault? with
    | some fault => ⟨m, some fault⟩
    | none => runCycles n m.cycle

/-- One tick. -/
def tick (m : Machine) : Outcome :=
  -- A tick that a fault cuts off does not reach its timer step.
  match runCycles m.settings.cycles m with
  | ⟨m, none⟩ => ⟨m.timerStep, none⟩
  | faulted => faulted

/-- Up to `n` ticks. -/
def run : Nat → Machine → Outcome
  | 0, m => ⟨m, none⟩
  | n + 1, m =>
    match m.tick with
    | ⟨m, none⟩ => run n m
    | faulted => faulted

/-! ## Watched runs

The same, with a watcher that is shown the machine before every cycle, and again when a cycle
cannot be carried out. -/

section

variable {σ : Type} (watch : Machine → σ → σ)

/-- Up to `n` cycles, watched. -/
def watchCycles : Nat → Machine → σ → Outcome × σ
  | 0, m, s => (⟨m, none⟩, s)
  | n + 1, m, s =>
    match m.fault? with
    | some fault => (⟨m, some fault⟩, watch m s)
    | none => watchCycles n m.cycle (watch m s)

/-- One tick, watched. -/
def watchTick (m : Machine) (s : σ) : Outcome × σ :=
  match watchCycles watch m.settings.cycles m s with
  | (⟨m, none⟩, s) => (⟨m.timerStep, none⟩, s)
  | faulted => faulted

/-- Up to `n` ticks, watched. -/
def watchRun : Nat → Machine → σ → Outcome × σ
  | 0, m, s => (⟨m, none⟩, s)
  | n + 1, m, s =>
    match watchTick watch m s with
    | (⟨m, none⟩, s) => watchRun n m s
    | faulted => faulted

/-- Watching does not change what happens. -/
theorem watchCycles_fst (n : Nat) (m : Machine) (s : σ) :
    (watchCycles watch n m s).1 = runCycles n m := by
  induction n generalizing m s with
  | zero => rfl
  | succ n ih =>
    simp only [watchCycles, runCycles]
    split
    · rfl
    · exact ih _ _

theorem watchTick_fst (m : Machine) (s : σ) : (watchTick watch m s).1 = m.tick := by
  simp only [watchTick, tick, ← watchCycles_fst watch _ m s]
  rcases watchCycles watch m.settings.cycles m s with ⟨⟨m, _ | f⟩, s⟩ <;> rfl

theorem watchRun_fst (n : Nat) (m : Machine) (s : σ) : (watchRun watch n m s).1 = run n m := by
  induction n generalizing m s with
  | zero => rfl
  | succ n ih =>
    simp only [watchRun, run, ← watchTick_fst watch m s]
    rcases watchTick watch m s with ⟨⟨m, _ | f⟩, s⟩
    · exact ih _ _
    · rfl

end

end ChipEight.Machine
