import ChipEight.Proofs.DueTicks
import ChipEight.Proofs.Paced

/-!
# Paced runs come to an end

On a clock of exact times that moves on by at least the time slept (`Clock.Advances`) no turn of a paced
run is wasted. The invariant is that the due time has been reached whenever a turn begins
(`Pace.OnTime`): a turn sleeps from its second reading until the due time, and whatever went by between
its two readings was not slept but counts as well. So the scheduler hands out a tick in every turn
(`Scheduler.exists_due_of_reached`), and there are no more turns than ticks
(`Session.paced_progress`).
-/

namespace ChipEight

/-- A clock of exact times that can always be read and slept by. Read after a sleep, it has moved on from
the reading before the sleep by at least the time slept. What it shows at two readings with no sleep
between them is left open. -/
structure Clock.Advances {κ : Type} (c : Clock κ ℚ ℚ) : Prop where
  read : ∀ k, ∃ now k', c.read? k = some (now, k')
  sleep : ∀ time k, 0 ≤ time → ∃ k', c.sleep? time k = some k'
  add_le : ∀ {k k₁ k₂ k₃ now later time}, c.read? k = some (now, k₁) → 0 ≤ time →
    c.sleep? time k₁ = some k₂ → c.read? k₂ = some (later, k₃) → now + time ≤ later

/-- When the due time has been reached, at least one tick is handed out, also when others are
dropped. -/
theorem Scheduler.exists_due_of_reached {s : Scheduler ℚ} (henabled : s.enabled = true)
    (hperiod : 0 < s.period) (hcap : 1 ≤ s.maxCatchUp) {now : ℚ}
    (hreached : ∀ t, s.next? = some t → t ≤ now) :
    ∃ answer t, s.due? now = some (answer, { s with next? := some t }) ∧ 1 ≤ answer := by
  cases hnext : s.next? with
  | none =>
    refine ⟨1, now + s.period, ?_, le_rfl⟩
    rw [due?, if_pos henabled, hnext]
    rfl
  | some t =>
    obtain ⟨answer, t', hdue, hserved⟩ := exists_served henabled hperiod hcap hnext now
    obtain ⟨t'', hends⟩ := hserved.ends
    have hle : ¬now < t := not_lt.mpr (hreached t hnext)
    have hbacklog : s.backlog now ≠ 0 := fun hzero => hle (hends.eq_zero_iff.mp hzero)
    have hanswer := hserved.answer_eq
    exact ⟨answer, t', hdue, by omega⟩

namespace Pace

variable {κ ρ τ σ : Type} {watch : Machine → σ → σ}

/-! ## Turns one by one -/

section

variable [Timeline ρ τ] {c : Clock κ ρ τ} {p q : Pace τ σ} {k k' : κ}

variable (watch) in
/-- A whole turn: the ticks that are due are run without a fault, and the host sleeps. -/
inductive Turn (c : Clock κ ρ τ) (p : Pace τ σ) (k : κ) (q : Pace τ σ) (k' : κ) : Prop
  | mk {now again : ρ} {time : τ} {k₁ k₂ : κ} (hread : c.read? k = some (now, k₁))
      (hserve : p.serve? watch now = some (q, none)) (hagain : c.read? k₁ = some (again, k₂))
      (hpause : q.pause? again = some time) (hsleep : c.sleep? time k₂ = some k')

variable (watch c) in
/-- Some turns one after the other, each of them begun because there were ticks left. -/
inductive Turns : Nat → Pace τ σ → κ → Pace τ σ → κ → Prop
  | none (p : Pace τ σ) (k : κ) : Turns 0 p k p k
  | turn {j : Nat} {p q r : Pace τ σ} {k k₁ k' : κ} (hleft : p.left ≠ 0)
      (first : Turn watch c p k q k₁) (rest : Turns j q k₁ r k') : Turns (j + 1) p k r k'

/-- A turn is what the loop goes through once. -/
theorem run_of_turn (hleft : p.left ≠ 0) (h : Turn watch c p k q k') (fuel sleeps : Nat) :
    run watch c (fuel + 1) p k sleeps = run watch c fuel q k' (sleeps + 1) := by
  obtain ⟨hread, hserve, hagain, hpause, hsleep⟩ := h
  rw [run, if_neg hleft, hread]
  simp only [hserve, hagain, hpause, Option.bind_some, hsleep]

theorem run_of_turns {j : Nat} (h : Turns watch c j p k q k') (fuel sleeps : Nat) :
    run watch c (j + fuel) p k sleeps = run watch c fuel q k' (sleeps + j) := by
  induction h generalizing sleeps with
  | none p k => rw [Nat.zero_add, Nat.add_zero]
  | turn hleft first rest ih =>
    rw [Nat.add_right_comm, run_of_turn hleft first, ih, Nat.add_assoc, Nat.add_comm 1]

theorem run_of_left_eq_zero (hleft : p.left = 0) (c : Clock κ ρ τ) (k : κ) (fuel sleeps : Nat) :
    run watch c fuel p k sleeps = ⟨p, k, sleeps, .done none⟩ := by
  cases fuel with
  | zero => rw [run, if_pos hleft]
  | succ fuel => rw [run, if_pos hleft]

variable (watch) in
/-- The ticks that are run are those that the scheduler hands out, as far as there are that many
left. -/
theorem exists_serve_of_due {now : ρ} {due : Int} {s : Scheduler τ}
    (h : p.scheduler.due? now = some (due, s)) :
    ∃ q fault?, p.serve? watch now = some (q, fault?) ∧ q.scheduler = s ∧
      Advance watch (min due.toNat p.left) p q fault? := by
  let n := min due.toNat p.left
  let ran := Machine.watchRun watch n p.machine p.trace
  refine ⟨⟨s, p.left - n, ran.1.machine, ran.2⟩, ran.1.fault?, ?_, rfl, ?_⟩
  · rw [serve?, h]
    rfl
  · exact ⟨Nat.min_le_right _ _, rfl, rfl⟩

end

/-! ## Runs without faults -/

/-- The ticks that are left all run without a fault. -/
def Faultless {τ : Type} (p : Pace τ σ) : Prop := (Machine.run p.left p.machine).fault? = none

/-- No fault is met on the way, and none lies ahead. -/
theorem Faultless.of_advance {p q : Pace τ σ} {n : Nat} {fault? : Option Fault} (h : p.Faultless)
    (hadvance : Advance watch n p q fault?) : fault? = none ∧ q.Faultless := by
  have hrun : Machine.run n p.machine = ⟨q.machine, fault?⟩ := by
    rw [← Machine.watchRun_fst watch n p.machine p.trace, hadvance.run_eq]
  have hsplit : n + q.left = p.left := by
    rw [hadvance.left_eq, Nat.add_sub_cancel' hadvance.le_left]
  rw [Faultless, ← hsplit, Machine.run_add, hrun] at h
  cases fault? with
  | none => exact ⟨rfl, h⟩
  | some f => cases h

/-! ## Turns on time -/

section

variable {c : Clock κ ℚ ℚ} {p q : Pace ℚ σ} {k k' : κ}

variable (c p k) in
/-- A turn can begin: nothing but the due time can keep the scheduler from handing out ticks, any
reading will have reached the due time, and no tick that is left fails. -/
structure OnTime : Prop where
  enabled : p.scheduler.enabled = true
  period_pos : 0 < p.scheduler.period
  one_le_cap : 1 ≤ p.scheduler.maxCatchUp
  reached : ∀ {t now k'}, p.scheduler.next? = some t → c.read? k = some (now, k') → t ≤ now
  faultless : p.Faultless

variable (watch) in
/-- The first half of a turn on time runs at least one tick. -/
theorem OnTime.exists_serve (h : OnTime c p k) (hleft : p.left ≠ 0) {now : ℚ} {k₁ : κ}
    (hread : c.read? k = some (now, k₁)) :
    ∃ n q t, p.serve? watch now = some (q, none) ∧ 1 ≤ n ∧ Advance watch n p q none ∧
      q.Faultless ∧ q.scheduler = { p.scheduler with next? := some t } := by
  obtain ⟨due, t, hdue, hone⟩ :=
    Scheduler.exists_due_of_reached h.enabled h.period_pos h.one_le_cap
      fun _ hnext => h.reached hnext hread
  obtain ⟨q, fault?, hserve, hscheduler, hadvance⟩ := exists_serve_of_due watch hdue
  obtain ⟨rfl, hfaultless⟩ := h.faultless.of_advance hadvance
  exact ⟨_, q, t, hserve, by omega, hadvance, hfaultless, hscheduler⟩

variable (watch) in
/-- Progress: as long as there are ticks left, a turn on time can be made. -/
theorem OnTime.exists_turn (hc : c.Advances) (h : OnTime c p k) (hleft : p.left ≠ 0) :
    ∃ q k', Turn watch c p k q k' := by
  obtain ⟨now, k₁, hread⟩ := hc.read k
  obtain ⟨-, q, t, hserve, -, -, -, hscheduler⟩ := h.exists_serve watch hleft hread
  obtain ⟨again, k₂, hagain⟩ := hc.read k₁
  have hpause : q.pause? again = some (max (t - again) 0) := by
    rw [pause?, hscheduler]
    rfl
  obtain ⟨k', hsleep⟩ := hc.sleep _ k₂ (le_max_right (t - again) 0)
  exact ⟨q, k', hread, hserve, hagain, hpause, hsleep⟩

/-- Preservation: a turn that begins on time runs at least one tick, and the next turn begins on time,
too. -/
theorem OnTime.of_turn (hc : c.Advances) (h : OnTime c p k) (hleft : p.left ≠ 0)
    (hturn : Turn watch c p k q k') : (∃ n, 1 ≤ n ∧ Advance watch n p q none) ∧ OnTime c q k' := by
  obtain @⟨now, again, time, k₁, k₂, hread, hserve, hagain, hpause, hsleep⟩ := hturn
  obtain ⟨n, q', t, hserve', hone, hadvance, hfaultless, hscheduler⟩ :=
    h.exists_serve watch hleft hread
  obtain rfl : q' = q := by
    rw [hserve'] at hserve
    exact (Prod.mk.inj (Option.some.inj hserve)).1
  refine ⟨⟨n, hone, hadvance⟩, ?_⟩
  constructor
  · rw [hscheduler]
    exact h.enabled
  · rw [hscheduler]
    exact h.period_pos
  · rw [hscheduler]
    exact h.one_le_cap
  · intro t' later k₃ hnext hlater
    rw [hscheduler] at hnext
    obtain rfl : t = t' := Option.some.inj hnext
    have htime : max (t - again) 0 = time := by
      rw [pause?, hscheduler] at hpause
      exact Option.some.inj hpause
    have hslept : again + time ≤ later :=
      hc.add_le hagain (htime ▸ le_max_right (t - again) 0) hsleep hlater
    have hrest : t - again ≤ time := htime ▸ le_max_left (t - again) 0
    linarith
  · exact hfaultless

/-- Turns keep the time. -/
theorem OnTime.of_turns (hc : c.Advances) {j : Nat} (hturns : Turns watch c j p k q k')
    (h : OnTime c p k) : OnTime c q k' := by
  induction hturns with
  | none p k => exact h
  | turn hleft first rest ih => exact ih (h.of_turn hc hleft first).2

variable (watch) in
/-- As every turn leaves fewer ticks, there are no more turns than ticks. -/
theorem OnTime.exists_turns (hc : c.Advances) (h : OnTime c p k) :
    ∃ j ≤ p.left, ∃ q k', Turns watch c j p k q k' ∧ q.left = 0 := by
  induction hn : p.left using Nat.strong_induction_on generalizing p k with
  | _ n ih =>
    by_cases hleft : p.left = 0
    · exact ⟨0, Nat.zero_le n, p, k, .none p k, hleft⟩
    obtain ⟨q, k₁, hturn⟩ := h.exists_turn watch hc hleft
    obtain ⟨⟨a, hone, hadvance⟩, hnext⟩ := h.of_turn hc hleft hturn
    have hq := hadvance.left_eq
    obtain ⟨j, hj, r, k', hturns, hr⟩ := ih q.left (by omega) hnext rfl
    exact ⟨j + 1, by omega, r, k', .turn hleft hturn hturns, hr⟩

end

end Pace

namespace Session

/-- The scheduler of a session begins on time whatever the clock shows: its first reading is itself a
tick. -/
theorem onTime_startPace {κ : Type} {c : Clock κ ℚ ℚ} {period : ℚ} (hperiod : 0 < period)
    {ticks : Int} {m : Machine} (hm : (Machine.run ticks.toNat m).fault? = none) (k : κ) :
    Pace.OnTime c (startPace period ticks m) k where
  enabled := rfl
  period_pos := hperiod
  one_le_cap := (by decide : (1 : Int) ≤ 4)
  reached h _ := nomatch h
  faultless := hm

/-- Let a paced run of ticks none of which fails go by a clock of exact times that moves on by at least
the time slept, however late it wakes the host and however long anything else takes. As long as ticks
are left, another turn can be made, and every turn runs at least one tick. So after some number of
turns, which is no larger than the number of ticks, none is left, and the run is done. -/
theorem paced_progress {κ : Type} {c : Clock κ ℚ ℚ} (hc : c.Advances) {period : ℚ}
    (hperiod : 0 < period) (level : LogLevel) (ticks : Int) (m : Machine)
    (hm : (Machine.run ticks.toNat m).fault? = none) (k : κ) :
    let watch := Machine.tracer level
    let start := startPace period ticks m
    (∀ j p k', Pace.Turns watch c j start k p k' → p.left ≠ 0 →
      (∃ q k'', Pace.Turn watch c p k' q k'') ∧
      ∀ q k'', Pace.Turn watch c p k' q k'' → ∃ n, 1 ≤ n ∧ Pace.Advance watch n p q none) ∧
    ∃ j ≤ ticks.toNat, ∃ q k', Pace.Turns watch c j start k q k' ∧ q.left = 0 ∧
      ∀ patience ≥ j, Pace.run watch c patience start k 0 = ⟨q, k', j, .done none⟩ := by
  intro watch start
  have hstart : Pace.OnTime c start k := onTime_startPace hperiod hm k
  constructor
  · intro j p k' hturns hleft
    have hp : Pace.OnTime c p k' := hstart.of_turns hc hturns
    exact ⟨hp.exists_turn watch hc hleft, fun q k'' hturn => (hp.of_turn hc hleft hturn).1⟩
  · obtain ⟨j, hj, q, k', hturns, hq⟩ := hstart.exists_turns watch hc
    refine ⟨j, hj, q, k', hturns, hq, ?_⟩
    intro patience hpatience
    obtain ⟨fuel, rfl⟩ := Nat.exists_eq_add_of_le hpatience
    rw [Pace.run_of_turns hturns, Pace.run_of_left_eq_zero hq, Nat.zero_add]

/-- A clock that takes a thousandth of a second for each reading, and wakes its host a second late. -/
def tardy : Clock ℚ ℚ ℚ where
  read? k := some (k + 1 / 1000, k + 1 / 1000)
  sleep? time k := some (k + time + 1)

theorem advances_tardy : tardy.Advances where
  read k := ⟨_, _, rfl⟩
  sleep time k _ := ⟨_, rfl⟩
  add_le := by
    rintro k k₁ k₂ k₃ now later time hread - hsleep hlater
    obtain ⟨rfl, rfl⟩ := Prod.mk.inj (Option.some.inj hread)
    obtain rfl := Option.some.inj hsleep
    obtain ⟨rfl, rfl⟩ := Prod.mk.inj (Option.some.inj hlater)
    linarith

/-- One instruction in a tick, always the same jump to itself. -/
def circling : Machine :=
  { Machine.new (Settings.standard.withCycles 1) (.tape (fun _ => 0) 0) with
    memory := Memory.zero.writeAll 0x200 [0x12, 0x00] }

theorem paced_progress_tardy :
    let r := Pace.run (Machine.tracer .info) tardy 9 (startPace (1 / 60) 9 circling) 0 0
    (Machine.run 9 circling).fault? = none ∧ r.ending = .done none ∧ r.pace.left = 0 ∧
      r.sleeps ≤ 9 := by
  intro r
  have hfaultless : (Machine.run 9 circling).fault? = none := by decide +kernel
  obtain ⟨-, j, hj, q, k', -, hq, hrun⟩ :=
    paced_progress advances_tardy (by norm_num : (0 : ℚ) < 1 / 60) .info 9 circling hfaultless 0
  have hr : r = ⟨q, k', j, .done none⟩ := hrun 9 hj
  rw [hr]
  exact ⟨hfaultless, rfl, hq, hj⟩

end Session

end ChipEight
