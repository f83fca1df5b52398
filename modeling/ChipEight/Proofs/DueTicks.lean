import ChipEight.Pacing.Exact
import Mathlib.Tactic

/-!
# Ticks that are due

How many ticks a scheduler hands out when time is exact. The loop that moves the due time on always
ends (`Scheduler.exists_overtakes`). A call hands out at most as many ticks as periods go by between the
old due time and the new one, and exactly as many unless it has to drop some (`Scheduler.Served`). Over
calls at any readings that never go back, the ticks add up to no more than the periods since the first
reading, and to just these when none were dropped (`Scheduler.due_exact`).
-/

namespace ChipEight.Scheduler

/-! ## Overtaking a reading -/

section

variable {ρ τ : Type} [Timeline ρ τ]

/-- Moving a due time on as long as a reading has reached it, without a bound: from `t` it takes `n`
periods and ends at `t'`. -/
inductive Overtakes (now : ρ) (period : τ) : τ → Nat → τ → Prop
  | done {t : τ} (h : Timeline.reached now t = false) : Overtakes now period t 0 t
  | move {t t' : τ} {n : Nat} (h : Timeline.reached now t = true)
      (rest : Overtakes now period (Timeline.later ρ t period) n t') :
      Overtakes now period t (n + 1) t'

/-- A bound that is large enough cuts nothing off. -/
theorem overtake_of_overtakes {now : ρ} {period t t' : τ} {n : Nat}
    (h : Overtakes now period t n t') {bound : Nat} (hbound : n ≤ bound) (count : Nat) :
    overtake now period bound t count = (count + n, t') := by
  induction h generalizing bound count with
  | done h =>
    cases bound with
    | zero => rfl
    | succ bound => simp [overtake, h]
  | @move t t' n h rest ih =>
    obtain ⟨bound, rfl⟩ : ∃ b, bound = b + 1 := Nat.exists_eq_add_one.mpr (by omega)
    rw [overtake, if_pos h, ih (Nat.le_of_succ_le_succ hbound) (count + 1)]
    simp only [Prod.mk.injEq, and_true]
    omega

end

section

variable {now period t t' : ℚ} {n : Nat}

/-- Where the loop ends: after `n` periods, past the reading, and with no period too many. -/
theorem Overtakes.bounds (h : Overtakes now period t n t') :
    t' = t + n * period ∧ now < t' ∧ (n = 0 ∨ t' ≤ now + period) := by
  induction h with
  | @done t h =>
    have hlt : now < t := by simpa [Timeline.reached] using h
    exact ⟨by simp, hlt, .inl rfl⟩
  | @move t t' n h rest ih =>
    have hle : t ≤ now := by simpa [Timeline.reached] using h
    obtain ⟨heq, hlt, hstop⟩ := ih
    have hlater : (Timeline.later ℚ t period : ℚ) = t + period := rfl
    rw [hlater] at heq
    refine ⟨?_, hlt, .inr ?_⟩
    · rw [heq]
      push_cast
      ring
    · rcases hstop with rfl | hstop
      · simp only [Nat.cast_zero, zero_mul, add_zero] at heq
        linarith
      · exact hstop

/-- Nothing is overtaken just when the reading has not reached the due time. -/
theorem Overtakes.eq_zero_iff (h : Overtakes now period t n t') : n = 0 ↔ now < t := by
  cases h with
  | done h => simpa [Timeline.reached] using h
  | move h rest => simpa [Timeline.reached] using h

theorem exists_overtakes_of_lt {bound : Nat} (h : now < t + bound * period) :
    ∃ n ≤ bound, ∃ t', Overtakes now period t n t' := by
  induction bound generalizing t with
  | zero =>
    have hlt : now < t := by simpa using h
    exact ⟨0, le_rfl, t, .done (by simpa [Timeline.reached] using hlt)⟩
  | succ bound ih =>
    by_cases hle : t ≤ now
    · have hnext : now < t + period + bound * period := by
        push_cast at h
        linarith
      obtain ⟨n, hn, t', hrest⟩ := ih hnext
      exact ⟨n + 1, by omega, t', .move (by simpa [Timeline.reached] using hle) hrest⟩
    · exact ⟨0, by omega, t, .done (by simpa [Timeline.reached] using hle)⟩

/-- The loop ends, within the bound that the scheduler sets it. -/
theorem exists_overtakes (hperiod : 0 < period) (now t : ℚ) :
    ∃ n ≤ Pacing.periodsPast now t period, ∃ t', Overtakes now period t n t' :=
  exists_overtakes_of_lt (Pacing.lt_add_periodsPast now t hperiod)

end

/-! ## One call -/

/-- How many ticks are due at a reading, before any of them is dropped. -/
def backlog (s : Scheduler ℚ) (now : ℚ) : Nat :=
  match s.next? with
  | none => 1
  | some t => (overtake now s.period (Timeline.periodsTo now t s.period) t 0).1

/-- A call at a reading hands out some ticks and moves the due time from `t` to `t'`. -/
structure Served (s : Scheduler ℚ) (now t : ℚ) (answer : Int) (t' : ℚ) : Prop where
  /-- The loop ends, and the ticks that it counts are handed out up to the limit. -/
  ends : ∃ t'', Overtakes now s.period t (s.backlog now) t''
  answer_eq : answer = min (s.backlog now : Int) s.maxCatchUp
  lt_next : now < t'
  next_le : t' ≤ max t (now + s.period)
  /-- The due time moves on by at least a period for each tick. -/
  le_next : t + answer * s.period ≤ t'
  /-- It moves on by no more when no ticks are dropped. -/
  next_eq : s.backlog now ≤ s.maxCatchUp → t' = t + answer * s.period

theorem exists_served {s : Scheduler ℚ} (henabled : s.enabled = true) (hperiod : 0 < s.period)
    (hcap : 1 ≤ s.maxCatchUp) {t : ℚ} (hnext : s.next? = some t) (now : ℚ) :
    ∃ answer t', s.due? now = some (answer, { s with next? := some t' }) ∧
      s.Served now t answer t' := by
  obtain ⟨n, hbound, t', hn⟩ := exists_overtakes hperiod now t
  obtain ⟨ht', hlt, hstop⟩ := hn.bounds
  have hloop : overtake now s.period (Timeline.periodsTo now t s.period) t 0 = (n, t') := by
    change overtake now s.period (Pacing.periodsPast now t s.period) t 0 = (n, t')
    rw [overtake_of_overtakes hn hbound, Nat.zero_add]
  have hbacklog : s.backlog now = n := by simp only [backlog, hnext, hloop]
  have hdue : s.due? now =
      if s.maxCatchUp < n then some (s.maxCatchUp, { s with next? := some (now + s.period) })
      else some ((n : Int), { s with next? := some t' }) := by
    rw [due?, if_pos henabled, hnext]
    simp only [hloop]
    rfl
  by_cases hdropped : s.maxCatchUp < n
  · -- Ticks are dropped, and counting starts anew at the reading.
    have hreached : t + s.maxCatchUp * s.period ≤ now + s.period := by
      have hcount : (s.maxCatchUp : ℚ) ≤ n := by exact_mod_cast hdropped.le
      rcases hstop with rfl | hstop
      · push_cast at hdropped
        omega
      · calc t + s.maxCatchUp * s.period ≤ t + n * s.period := by gcongr
          _ = t' := ht'.symm
          _ ≤ now + s.period := hstop
    refine ⟨s.maxCatchUp, now + s.period, by rw [hdue, if_pos hdropped], ?_⟩
    constructor
    · exact ⟨t', hbacklog ▸ hn⟩
    · rw [hbacklog, min_eq_right hdropped.le]
    · linarith
    · exact le_max_right t (now + s.period)
    · exact hreached
    · intro hkept
      rw [hbacklog] at hkept
      exact absurd hkept (not_le.mpr hdropped)
  · have hanswer : t + ((n : Int) : ℚ) * s.period = t' := by
      rw [ht']
      push_cast
      rfl
    refine ⟨n, t', by rw [hdue, if_neg hdropped], ?_⟩
    constructor
    · exact ⟨t', hbacklog ▸ hn⟩
    · rw [hbacklog, min_eq_left (not_lt.mp hdropped)]
    · exact hlt
    · rcases hstop with rfl | hstop
      · rw [ht']
        simp
      · exact le_max_of_le_right hstop
    · exact hanswer.le
    · intro _
      exact hanswer.symm

/-! ## Polling -/

/-- One call: the scheduler before it, the reading, the answer, and the scheduler after it. -/
structure Poll where
  before : Scheduler ℚ
  reading : ℚ
  answer : Int
  after : Scheduler ℚ

/-- Has a call dropped ticks? -/
def Poll.drops (p : Poll) : Bool := p.before.maxCatchUp < p.before.backlog p.reading

/-- The calls at readings one after the other; `none` when one of them fails. -/
def polls? (s : Scheduler ℚ) : List ℚ → Option (List Poll)
  | [] => some []
  | now :: rest => do
    let (answer, after) ← s.due? now
    let polls ← after.polls? rest
    pure (⟨s, now, answer, after⟩ :: polls)

/-- How many ticks some calls hand out together. -/
def total (polls : List Poll) : Int := (polls.map Poll.answer).sum

/-- A call of a scheduler that is `s` but for its due time is answered, within the limit, and leaves
the due time ahead of the reading by at most a period. -/
structure Poll.Sound (s : Scheduler ℚ) (p : Poll) : Prop where
  /-- The loop ends, if the call comes to it. -/
  ends : ∀ t, p.before.next? = some t →
    ∃ t', Overtakes p.reading s.period t (p.before.backlog p.reading) t'
  answer_eq : p.answer = min (p.before.backlog p.reading : Int) s.maxCatchUp
  nonneg : 0 ≤ p.answer
  le_cap : p.answer ≤ s.maxCatchUp
  after_eq : ∃ t, p.after = { s with next? := some t } ∧
    p.reading < t ∧ t ≤ p.reading + s.period

/-- What the due time was when the polls began has no part in it. -/
theorem Poll.Sound.of_withNext {s : Scheduler ℚ} {next? : Option ℚ} {p : Poll}
    (h : p.Sound { s with next? := next? }) : p.Sound s where
  ends := h.ends
  answer_eq := h.answer_eq
  nonneg := h.nonneg
  le_cap := h.le_cap
  after_eq := h.after_eq

theorem polls?_cons {s after : Scheduler ℚ} {now : ℚ} {answer : Int} {rest : List ℚ}
    {polls : List Poll} (hdue : s.due? now = some (answer, after))
    (hrest : after.polls? rest = some polls) :
    s.polls? (now :: rest) = some (⟨s, now, answer, after⟩ :: polls) := by
  rw [polls?, hdue]
  simp [hrest]

theorem total_cons (p : Poll) (polls : List Poll) :
    total (p :: polls) = p.answer + total polls := List.sum_cons

/-- Once counting has started, the due time moves on by at least a period for each tick, and by no
more when no call drops ticks. -/
theorem exists_polls {s : Scheduler ℚ} (henabled : s.enabled = true) (hperiod : 0 < s.period)
    (hcap : 1 ≤ s.maxCatchUp) {now t : ℚ} (hnext : s.next? = some t) (hlt : now < t)
    (hle : t ≤ now + s.period) {rest : List ℚ} (hrest : (now :: rest).Pairwise (· ≤ ·)) :
    ∃ polls t', s.polls? rest = some polls ∧ (∀ p ∈ polls, p.Sound s) ∧
      rest.getLastD now < t' ∧ t' ≤ rest.getLastD now + s.period ∧
      t + total polls * s.period ≤ t' ∧
      ((∀ p ∈ polls, p.drops = false) → t' = t + total polls * s.period) := by
  induction rest generalizing s now t with
  | nil =>
    refine ⟨[], t, rfl, by simp, hlt, hle, ?_, ?_⟩
    · simp [total]
    · simp [total]
  | cons reading rest ih =>
    obtain ⟨hfirst, hrest⟩ := List.pairwise_cons.mp hrest
    have hmono : now ≤ reading := hfirst reading List.mem_cons_self
    obtain ⟨answer, t₁, hdue, hserved⟩ := exists_served henabled hperiod hcap hnext reading
    have hle₁ : t₁ ≤ reading + s.period :=
      hserved.next_le.trans (max_le (by linarith) le_rfl)
    obtain ⟨polls, t', hpolls, hsound, hlast, hlast', htotal, hexact⟩ :=
      ih (s := { s with next? := some t₁ }) henabled hperiod hcap rfl hserved.lt_next hle₁ hrest
    have hanswer := hserved.answer_eq
    rw [List.getLastD_cons]
    refine ⟨_, t', polls?_cons hdue hpolls, ?_, hlast, hlast', ?_, ?_⟩
    · rintro p (_ | ⟨_, hp⟩)
      · refine ⟨?_, hanswer, ?_, ?_, t₁, rfl, hserved.lt_next, hle₁⟩
        · intro t₀ ht₀
          obtain rfl : t = t₀ := Option.some.inj (hnext.symm.trans ht₀)
          exact hserved.ends
        · show 0 ≤ answer
          omega
        · show answer ≤ s.maxCatchUp
          omega
      · exact (hsound p hp).of_withNext
    · have hstep := hserved.le_next
      rw [total_cons]
      push_cast
      linarith
    · intro hkept
      have hstep : t₁ = t + answer * s.period := by
        apply hserved.next_eq
        simpa [Poll.drops] using hkept _ List.mem_cons_self
      have hrun := hexact fun p hp => hkept p (List.mem_cons_of_mem _ hp)
      rw [total_cons]
      push_cast
      linarith

/-- A call hands out nothing just when there is still time until the next tick. -/
theorem exists_due_eq_zero_iff {s : Scheduler ℚ} (henabled : s.enabled = true)
    (hperiod : 0 < s.period) (hcap : 1 ≤ s.maxCatchUp) (now : ℚ) :
    ∃ answer after wait, s.due? now = some (answer, after) ∧ s.untilNext? now = some wait ∧
      (answer = 0 ↔ 0 < wait) := by
  cases hnext : s.next? with
  | none =>
    refine ⟨1, { s with next? := some (now + s.period) }, 0, ?_, ?_, by simp⟩
    · rw [due?, if_pos henabled, hnext]
      rfl
    · rw [untilNext?, hnext]
      rfl
  | some t =>
    obtain ⟨answer, t', hdue, hserved⟩ := exists_served henabled hperiod hcap hnext now
    obtain ⟨t'', hends⟩ := hserved.ends
    have hanswer := hserved.answer_eq
    refine ⟨answer, _, max (t - now) 0, hdue, ?_, ?_⟩
    · rw [untilNext?, hnext]
      rfl
    · calc answer = 0 ↔ s.backlog now = 0 := by omega
        _ ↔ now < t := hends.eq_zero_iff
        _ ↔ 0 < max (t - now) 0 := by simp

/-! ## A fresh scheduler -/

/-- A scheduler as it is made, for so many ticks in a second. -/
def fresh (rate : ℚ) (cap : Int) : Scheduler ℚ := { period := 1 / rate, maxCatchUp := cap }

/-- At readings that never go back, every call of a fresh scheduler is answered as it should be. The
ticks add up to no more than one and the periods since the first reading, and to just these when no
call drops ticks: then they depend on the first and the last reading only. And whatever the due time
is, a call hands out nothing just when there is still time until the next tick. -/
theorem due_exact (rate : ℚ) (hrate : 0 < rate) (cap : Int) (hcap : 1 ≤ cap) :
    (∀ (start : ℚ) (rest : List ℚ), (start :: rest).Pairwise (· ≤ ·) →
      ∃ polls, (fresh rate cap).polls? (start :: rest) = some polls ∧
        (∀ p ∈ polls, p.Sound (fresh rate cap)) ∧
        total polls ≤ ⌊(rest.getLastD start - start) / (1 / rate)⌋ + 1 ∧
        ((∀ p ∈ polls, p.drops = false) →
          total polls = ⌊(rest.getLastD start - start) / (1 / rate)⌋ + 1)) ∧
    (∀ (next? : Option ℚ) (now : ℚ), ∃ answer after wait,
      { fresh rate cap with next? := next? }.due? now = some (answer, after) ∧
      { fresh rate cap with next? := next? }.untilNext? now = some wait ∧
      (answer = 0 ↔ 0 < wait)) := by
  have hperiod : 0 < 1 / rate := one_div_pos.mpr hrate
  refine ⟨?_, fun next? now => exists_due_eq_zero_iff rfl hperiod hcap now⟩
  intro start rest hsorted
  -- The first call starts the counting and hands out the tick that the formula adds.
  have hfirst : (fresh rate cap).due? start =
      some (1, { fresh rate cap with next? := some (start + 1 / rate) }) := rfl
  obtain ⟨polls, t', hpolls, hsound, hlast, hlast', htotal, hexact⟩ :=
    exists_polls (s := { fresh rate cap with next? := some (start + 1 / rate) }) rfl hperiod hcap
      rfl (lt_add_of_pos_right start hperiod) le_rfl hsorted
  have hcount : (total polls : ℚ) ≤ (rest.getLastD start - start) / (1 / rate) := by
    rw [le_div_iff₀ hperiod]
    change t' ≤ rest.getLastD start + 1 / rate at hlast'
    change start + 1 / rate + total polls * (1 / rate) ≤ t' at htotal
    linarith
  refine ⟨_, polls?_cons hfirst hpolls, ?_, ?_, ?_⟩
  · rintro p (_ | ⟨_, hp⟩)
    · refine ⟨?_, (min_eq_left hcap).symm, zero_le_one, hcap, _, rfl,
        lt_add_of_pos_right start hperiod, le_rfl⟩
      intro t ht
      cases ht
    · exact (hsound p hp).of_withNext
  · rw [total_cons, add_comm]
    exact add_le_add_left (Int.le_floor.mpr hcount) 1
  · intro hkept
    have hend : t' = start + 1 / rate + total polls * (1 / rate) :=
      hexact fun p hp => hkept p (List.mem_cons_of_mem _ hp)
    have hnot : (rest.getLastD start - start) / (1 / rate) < total polls + 1 := by
      rw [div_lt_iff₀ hperiod]
      linarith
    rw [total_cons, add_comm, Int.floor_eq_iff.mpr ⟨hcount, hnot⟩]

/-- Ten ticks in a second, and a poll that is not due yet. -/
theorem due_exact_of_ten_per_second :
    (0 : ℚ) < 10 ∧ (1 : Int) ≤ 3 ∧ [0, 1 / 20, 1 / 10, (7 / 20 : ℚ)].Pairwise (· ≤ ·) ∧
      ∃ polls, (fresh 10 3).polls? [0, 1 / 20, 1 / 10, 7 / 20] = some polls ∧
        (∀ p ∈ polls, p.drops = false) ∧ total polls = 4 := by
  have hsorted : [0, 1 / 20, 1 / 10, (7 / 20 : ℚ)].Pairwise (· ≤ ·) := by decide +kernel
  have hkept : ((fresh 10 3).polls? [0, 1 / 20, 1 / 10, 7 / 20]).map
      (·.all (!Poll.drops ·)) = some true := by decide +kernel
  obtain ⟨hpolls, -⟩ := due_exact 10 (by decide) 3 (by decide)
  obtain ⟨polls, hrun, -, -, htotal⟩ := hpolls 0 [1 / 20, 1 / 10, 7 / 20] hsorted
  rw [hrun] at hkept
  have hdrops : ∀ p ∈ polls, p.drops = false := by simpa using hkept
  refine ⟨by decide, by decide, hsorted, polls, hrun, hdrops, ?_⟩
  rw [htotal hdrops]
  norm_num

-- Ticks that are dropped are not made up for.
example : ((fresh 10 3).polls? [0, 60, 60 + 1 / 20, 60 + 3 / 20]).map total = some 5 := by
  decide +kernel

end ChipEight.Scheduler
