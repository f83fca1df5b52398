import ChipEight.CommandLine.Session
import ChipEight.Proofs.Stepwise

/-!
# Paced runs are runs

A paced run serves its ticks in bursts, as many at a time as its clock says, and a plain run makes them
one after the other. Whatever the clock shows, the bursts add up: up to any turn the machine has made
some number of ticks and has that many fewer left (`Pace.exists_advance_run`). So a paced run that ends
leaves the same machine, the same fault and the same log as the plain one (`Session.paced_agrees`).
-/

namespace ChipEight

/-! ## Watched runs in parts -/

namespace Machine

variable {σ : Type} (watch : Machine → σ → σ)

theorem watchRun_add_of_none {a : Nat} {m x : Machine} {s t : σ}
    (h : watchRun watch a m s = (⟨x, none⟩, t)) (b : Nat) :
    watchRun watch (a + b) m s = watchRun watch b x t := by
  induction a generalizing m s with
  | zero =>
    obtain ⟨rfl, rfl⟩ : m = x ∧ s = t := by simpa [watchRun] using h
    rw [Nat.zero_add]
  | succ a ih =>
    rw [watchRun] at h
    rw [Nat.succ_add, watchRun]
    rcases hfirst : watchTick watch m s with ⟨⟨m', _ | f⟩, s'⟩
    · rw [hfirst] at h
      exact ih h
    · rw [hfirst] at h
      cases h

/-- After a fault there is nothing more to run. -/
theorem watchRun_add_of_fault {a : Nat} {m x : Machine} {s t : σ} {f : Fault}
    (h : watchRun watch a m s = (⟨x, some f⟩, t)) (b : Nat) :
    watchRun watch (a + b) m s = (⟨x, some f⟩, t) := by
  induction a generalizing m s with
  | zero => cases h
  | succ a ih =>
    rw [watchRun] at h
    rw [Nat.succ_add, watchRun]
    rcases hfirst : watchTick watch m s with ⟨⟨m', _ | g⟩, s'⟩
    · rw [hfirst] at h
      exact ih h
    · rw [hfirst] at h
      exact h

/-- A run without a fault counts its ticks. -/
theorem ticks_run {n : Nat} {m x : Machine} (h : run n m = ⟨x, none⟩) : x.ticks = m.ticks + n := by
  rw [run_eq_stepped] at h
  obtain ⟨-, hticks, -⟩ := counts_of_stepped h
  rw [hticks, Nat.mul_div_cancel n m.settings.one_le_cycles]

end Machine

/-! ## Turns -/

namespace Pace

variable {κ ρ τ σ : Type} (watch : Machine → σ → σ)

/-- The fault that stopped the machine, if it was one that ended the run. -/
def Ending.fault? : Ending → Option Fault
  | .done fault? => fault?
  | .noTime | .impatient => none

/-- The paced run `p` becomes `q` by `n` ticks, the last of which may have been cut off by a fault. -/
structure Advance (n : Nat) (p q : Pace τ σ) (fault? : Option Fault) : Prop where
  le_left : n ≤ p.left
  left_eq : q.left = p.left - n
  run_eq : Machine.watchRun watch n p.machine p.trace = (⟨q.machine, fault?⟩, q.trace)

theorem Advance.refl (p : Pace τ σ) : Advance watch 0 p p none where
  le_left := Nat.zero_le p.left
  left_eq := (Nat.sub_zero p.left).symm
  run_eq := rfl

variable {watch}

theorem Advance.trans {a b : Nat} {p q r : Pace τ σ} {fault? : Option Fault}
    (h : Advance watch a p q none) (h' : Advance watch b q r fault?) :
    Advance watch (a + b) p r fault? := by
  have hle := h.le_left
  have hleft := h.left_eq
  have hle' := h'.le_left
  constructor
  · omega
  · rw [h'.left_eq, hleft, Nat.sub_sub]
  · rw [Machine.watchRun_add_of_none watch h.run_eq, h'.run_eq]

variable [Timeline ρ τ]

/-- A turn serves some of the ticks that are left, however many the scheduler asks for. -/
theorem exists_advance_serve {now : ρ} {p q : Pace τ σ} {fault? : Option Fault}
    (h : p.serve? watch now = some (q, fault?)) : ∃ n, Advance watch n p q fault? := by
  obtain ⟨⟨due, scheduler⟩, -, hq⟩ := Option.map_eq_some_iff.mp h
  obtain ⟨rfl, rfl⟩ := Prod.mk.inj hq
  exact ⟨min due.toNat p.left, Nat.min_le_right _ _, rfl, rfl⟩

variable (watch) in
/-- What has been run when the turns end is some number of ticks, and it is all of them if the run
is done without a fault. -/
theorem exists_advance_run (c : Clock κ ρ τ) (patience : Nat) (p : Pace τ σ) (k : κ)
    (sleeps : Nat) :
    let r := run watch c patience p k sleeps
    ∃ n, Advance watch n p r.pace r.ending.fault? ∧ (r.ending = .done none → n = p.left) := by
  induction patience generalizing p k sleeps with
  | zero =>
    refine ⟨0, ?_, ?_⟩
    · rw [run]
      by_cases hleft : p.left = 0
      · rw [if_pos hleft]
        exact Advance.refl watch p
      · rw [if_neg hleft]
        exact Advance.refl watch p
    · rw [run]
      intro hdone
      by_contra hleft
      rw [if_neg (Ne.symm hleft)] at hdone
      cases hdone
  | succ patience ih =>
    rw [run]
    by_cases hleft : p.left = 0
    · rw [if_pos hleft]
      exact ⟨0, Advance.refl watch p, fun _ => hleft.symm⟩
    rw [if_neg hleft]
    cases hread : c.read? k with
    | none => exact ⟨0, Advance.refl watch p, nofun⟩
    | some reading =>
      obtain ⟨now, k₁⟩ := reading
      simp only
      cases hserve : p.serve? watch now with
      | none => exact ⟨0, Advance.refl watch p, nofun⟩
      | some served =>
        obtain ⟨q, fault?⟩ := served
        obtain ⟨n, hn⟩ := exists_advance_serve hserve
        cases fault? with
        | some f => exact ⟨n, hn, nofun⟩
        | none =>
          simp only
          cases hagain : c.read? k₁ with
          | none => exact ⟨n, hn, nofun⟩
          | some reading =>
            obtain ⟨again, k₂⟩ := reading
            simp only
            cases hsleep : (q.pause? again).bind (c.sleep? · k₂) with
            | none => exact ⟨n, hn, nofun⟩
            | some k₃ =>
              -- The turns that follow go on from what this one has left.
              obtain ⟨n', hn', hall⟩ := ih q k₃ (sleeps + 1)
              refine ⟨n + n', hn.trans hn', ?_⟩
              intro hdone
              have hle := hn.le_left
              have hq := hn.left_eq
              have hrest := hall hdone
              omega

/-- A paced run that is done has run all its ticks, or up to a fault. -/
theorem watchRun_of_done (c : Clock κ ρ τ) (patience : Nat) (p : Pace τ σ) (k : κ) (sleeps : Nat)
    {fault? : Option Fault} (h : (run watch c patience p k sleeps).ending = .done fault?) :
    Machine.watchRun watch p.left p.machine p.trace =
      (⟨(run watch c patience p k sleeps).pace.machine, fault?⟩,
        (run watch c patience p k sleeps).pace.trace) := by
  obtain ⟨n, hn, hall⟩ := exists_advance_run watch c patience p k sleeps
  rw [h] at hn
  have hrun := hn.run_eq
  cases fault? with
  | none =>
    rw [← hall h]
    exact hrun
  | some f =>
    have hsplit : n + (p.left - n) = p.left := Nat.add_sub_cancel' hn.le_left
    rw [← hsplit]
    exact Machine.watchRun_add_of_fault watch hrun (p.left - n)

/-! ## Clocks that always show a time -/

/-- Every reading is followed by another one, and all times around it exist. -/
structure Shows (c : Clock κ ρ τ) : Prop where
  read : ∀ k, ∃ now k', c.read? k = some (now, k') ∧
    (∀ period : τ, ∃ t, Timeline.after? now period = some t) ∧
    ∀ t : τ, ∃ pause, Timeline.until? now t = some pause
  sleep : ∀ time k, ∃ k', c.sleep? time k = some k'

theorem exists_due {now : ρ} (hafter : ∀ period : τ, ∃ t, Timeline.after? now period = some t)
    (s : Scheduler τ) : ∃ answer, s.due? now = some answer := by
  have hreset (s : Scheduler τ) : ∃ s', s.reset? now = some s' := by
    obtain ⟨t, ht⟩ := hafter s.period
    exact ⟨_, by rw [Scheduler.reset?, ht]; rfl⟩
  unfold Scheduler.due?
  split
  · split
    · obtain ⟨s', hs'⟩ := hreset s
      exact ⟨_, by rw [hs']; rfl⟩
    · rename_i t _
      simp only
      split
      · obtain ⟨s', hs'⟩ := hreset { s with
          next? := some (Scheduler.overtake now s.period (Timeline.periodsTo now t s.period) t 0).2 }
        exact ⟨_, by rw [hs']; rfl⟩
      · exact ⟨_, rfl⟩
  · exact ⟨_, rfl⟩

theorem exists_pause {now : ρ} (huntil : ∀ t : τ, ∃ pause, Timeline.until? now t = some pause)
    (p : Pace τ σ) : ∃ time, p.pause? now = some time := by
  unfold pause? Scheduler.untilNext?
  split
  · exact ⟨_, rfl⟩
  · exact huntil _

/-- Such a clock never ends a run. -/
theorem ending_ne_noTime {c : Clock κ ρ τ} (hc : Shows c) (patience : Nat) (p : Pace τ σ) (k : κ)
    (sleeps : Nat) : (run watch c patience p k sleeps).ending ≠ .noTime := by
  induction patience generalizing p k sleeps with
  | zero =>
    rw [run]
    by_cases hleft : p.left = 0
    · simp [hleft]
    · simp [hleft]
  | succ patience ih =>
    rw [run]
    by_cases hleft : p.left = 0
    · simp [hleft]
    obtain ⟨now, k₁, hread, hafter, -⟩ := hc.read k
    obtain ⟨answer, hdue⟩ := exists_due hafter p.scheduler
    obtain ⟨again, k₂, hagain, -, huntil⟩ := hc.read k₁
    rw [if_neg hleft, hread]
    simp only [serve?, hdue, Option.map_some]
    split
    · rename_i hnone
      cases hnone
    · exact nofun
    · rename_i q hserved
      obtain ⟨time, hpause⟩ := exists_pause huntil q
      obtain ⟨k₃, hsleep⟩ := hc.sleep time k₂
      rw [hagain]
      simp only [hpause, Option.bind_some, hsleep]
      exact ih q k₃ (sleeps + 1)

end Pace

/-- A clock that shows given doubles one after the other, however long the host sleeps. Its state
counts the readings. -/
def Clock.showing (readings : Nat → Binary64) : Clock Nat Number Binary64 where
  read? k := some (.float (readings k), k + 1)
  sleep? _ k := some k

theorem Pace.shows_showing (readings : Nat → Binary64) : Pace.Shows (Clock.showing readings) where
  read k := ⟨.float (readings k), k + 1, rfl, fun _ => ⟨_, rfl⟩, fun _ => ⟨_, rfl⟩⟩
  sleep _ k := ⟨k, rfl⟩

/-! ## Sessions -/

namespace Session

/-- The turns of a session that keeps pace with a clock. -/
def turns {κ : Type} (c : Clock κ Number Binary64) (env : Environment κ) (options : Options)
    (r : Ready) : Pace.Result κ Binary64 (List LogRecord) :=
  Pace.run (Machine.tracer r.level) c env.patience
    (startPace (Pacing.period Layout.tickRate) options.ticks r.machine) env.clock 0

section

variable {κ ρ τ : Type} [Timeline ρ τ] {level : LogLevel} {ticks : Int} {m : Machine}
  {c : Clock κ ρ τ} {k : κ} {period : τ} {patience : Nat} {fault? : Option Fault}

theorem run_of_done
    (h : (Pace.run (Machine.tracer level) c patience (startPace period ticks m) k 0).ending =
      .done fault?) :
    (⟨(Pace.run (Machine.tracer level) c patience (startPace period ticks m) k 0).pace.machine,
      fault?⟩ : Machine.Outcome) = Machine.run ticks.toNat m := by
  have hwatch := Pace.watchRun_of_done c patience (startPace period ticks m) k 0 h
  have hrun := Machine.watchRun_fst (Machine.tracer level) ticks.toNat m []
  rw [← hrun]
  exact (congrArg Prod.fst hwatch).symm

theorem runPaced_of_done
    (h : (Pace.run (Machine.tracer level) c patience (startPace period ticks m) k 0).ending =
      .done fault?) :
    (runPaced level ticks period c patience m k).1 = runFree level ticks m := by
  have hwatch : Machine.watchRun (Machine.tracer level) ticks.toNat m [] = _ :=
    Pace.watchRun_of_done c patience (startPace period ticks m) k 0 h
  simp only [runPaced, runFree, h, closePace, hwatch]

end

/-- Let a clock show whatever it likes. Once a paced run is over it has left the machine, the fault
and the log that the plain run leaves; without a fault it has run as many ticks as were asked for, and
none if that was less than one. What a whole session says and writes is then the same, too. Clocks
that show doubles never end a run by themselves. -/
theorem paced_agrees :
    (∀ (κ ρ τ : Type) [Timeline ρ τ] (level : LogLevel) (ticks : Int) (m : Machine)
      (c : Clock κ ρ τ) (k : κ) (period : τ) (patience : Nat) (fault? : Option Fault),
      let r := Pace.run (Machine.tracer level) c patience (startPace period ticks m) k 0
      r.ending = .done fault? →
        (⟨r.pace.machine, fault?⟩ : Machine.Outcome) = Machine.run ticks.toNat m ∧
        (fault? = none → (r.pace.machine.ticks : Int) = m.ticks + max 0 ticks) ∧
        (runPaced level ticks period c patience m k).1 = runFree level ticks m) ∧
    (∀ (κ : Type) (c : Clock κ Number Binary64) (env : Environment κ) (options : Options)
      (r : Ready) (fault? : Option Fault),
      ready options env.files env.level env.entropy = .ok r →
      (turns c env options r).ending = .done fault? →
        (runOptions c env { options with realtime := true }).1 =
          (runOptions c env { options with realtime := false }).1) ∧
    ∀ (readings : Nat → Binary64) (level : LogLevel) (ticks : Int) (m : Machine) (patience : Nat),
      let r := Pace.run (Machine.tracer level) (Clock.showing readings) patience
        (startPace (Pacing.period Layout.tickRate) ticks m) 0 0
      r.ending = .impatient ∨ ∃ fault?, r.ending = .done fault? := by
  refine ⟨?_, ?_, ?_⟩
  · intro κ ρ τ _ level ticks m c k period patience fault? r hdone
    have hrun := run_of_done hdone
    refine ⟨hrun, ?_, runPaced_of_done hdone⟩
    rintro rfl
    have hticks := Machine.ticks_run hrun.symm
    show ((r.pace.machine.ticks : Nat) : Int) = m.ticks + max 0 ticks
    rw [hticks]
    omega
  · intro κ c env options r fault? hready hdone
    have hpaced : ready { options with realtime := true } env.files env.level env.entropy =
        .ok r := hready
    have hfree : ready { options with realtime := false } env.files env.level env.entropy =
        .ok r := hready
    have hran : (runPaced r.level options.ticks (Pacing.period Layout.tickRate) c env.patience
        r.machine env.clock).1 = runFree r.level options.ticks r.machine := runPaced_of_done hdone
    rw [runOptions, runOptions, hpaced, hfree]
    show r.close _ _ (runPaced r.level options.ticks (Pacing.period Layout.tickRate) c env.patience
      r.machine env.clock).1 = _
    rw [hran]
    rfl
  · intro readings level ticks m patience r
    have hne : r.ending ≠ .noTime := Pace.ending_ne_noTime (Pace.shows_showing readings) _ _ _ _
    cases hending : r.ending with
    | done fault? => exact .inr ⟨fault?, rfl⟩
    | noTime => exact absurd hending hne
    | impatient => exact .inl rfl

/-- One instruction in a tick, and the third one is a return that has nowhere to go. -/
def stumbling : Machine :=
  { Machine.new (Settings.standard.withCycles 1) (.tape (fun _ => 0) 0) with
    memory := Memory.zero.writeAll 0x200 [0x60, 0x07, 0x70, 0x01, 0x00, 0xEE] }

/-- Clock readings that go back and then jump ahead, so that the fault falls within a burst. -/
def erratic (k : Nat) : Binary64 :=
  if k < 2 then .ofInt 5 else if k < 4 then .ofInt 3 else .ofQuotient false 81 16

theorem paced_agrees_stumbling :
    let r := Pace.run (Machine.tracer .info) (Clock.showing erratic) 9
      (startPace (Pacing.period Layout.tickRate) 10 stumbling) 0 0
    (⟨r.pace.machine, some (.stackUnderflow 0x204)⟩ : Machine.Outcome) =
      Machine.run 10 stumbling ∧ r.sleeps = 2 := by
  intro r
  have hdone : r.ending = .done (some (.stackUnderflow 0x204)) := by decide +kernel
  have hsleeps : r.sleeps = 2 := by decide +kernel
  have hten : Int.toNat 10 = 10 := rfl
  obtain ⟨hrun, -, -⟩ := paced_agrees.1 _ _ _ .info 10 stumbling _ _ _ _ _ hdone
  rw [hten] at hrun
  refine ⟨?_, hsleeps⟩
  simp only [r]
  exact hrun

end Session

end ChipEight
