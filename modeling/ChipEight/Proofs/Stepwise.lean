import ChipEight.Proofs.Bare.Execution

/-!
# Runs, one instruction after the other

A run is a loop of ticks, and a tick is a loop of cycles that ends with a timer step. A fault may cut
off either loop. `Machine.stepped` does the same work in one row: cycles one after the other, with a
timer step after every `c`-th of them. A run is such a row (`run_eq_stepped`), and what it counts and
where a fault ends it are facts about the row.
-/

namespace ChipEight.Machine

/-! ## One run after the other -/

namespace Outcome

/-- Goes on from where a run ended, unless a fault ended it. -/
def andThen (o : Outcome) (next : Machine → Outcome) : Outcome :=
  match o.fault? with
  | none => next o.machine
  | some _ => o

theorem andThen_assoc (o : Outcome) (f g : Machine → Outcome) :
    (o.andThen f).andThen g = o.andThen fun m => (f m).andThen g := by
  obtain ⟨m, _ | fault⟩ := o <;> rfl

end Outcome

theorem runCycles_add (a b : Nat) (m : Machine) :
    runCycles (a + b) m = (runCycles a m).andThen (runCycles b) := by
  induction a generalizing m with
  | zero => rw [Nat.zero_add, runCycles, Outcome.andThen]
  | succ a ih =>
    rw [Nat.succ_add, runCycles, runCycles]
    cases m.fault? with
    | some fault => rfl
    | none => exact ih m.cycle

theorem tick_eq_andThen (m : Machine) :
    m.tick = (runCycles m.settings.cycles m).andThen fun m' => ⟨m'.timerStep, none⟩ := by
  rw [tick]
  rcases runCycles m.settings.cycles m with ⟨m', _ | fault⟩ <;> rfl

theorem run_succ (n : Nat) (m : Machine) : run (n + 1) m = m.tick.andThen (run n) := by
  rw [run]
  rcases m.tick with ⟨m', _ | fault⟩ <;> rfl

theorem run_one (m : Machine) : run 1 m = m.tick := by
  rw [run_succ]
  rcases m.tick with ⟨m', _ | fault⟩ <;> rfl

theorem run_add (a b : Nat) (m : Machine) : run (a + b) m = (run a m).andThen (run b) := by
  induction a generalizing m with
  | zero => rw [Nat.zero_add, run, Outcome.andThen]
  | succ a ih =>
    rw [Nat.succ_add, run_succ, run_succ, Outcome.andThen_assoc]
    exact congrArg m.tick.andThen (funext ih)

/-! ## Cycles in a row -/

/-- The first `k` cycles in a row, each of them followed by a timer step when its number is a
multiple of `c`. -/
def stepped (c : Nat) (m : Machine) : Nat → Outcome
  | 0 => ⟨m, none⟩
  | k + 1 =>
    (stepped c m k).andThen fun m =>
      match m.cycle? with
      | .error fault => ⟨m, some fault⟩
      | .ok m => ⟨if c ∣ k + 1 then m.timerStep else m, none⟩

theorem cycle?_of_fault {m : Machine} {f : Fault} (h : m.fault? = some f) :
    m.cycle? = .error f := by
  rw [cycle?, h]

theorem cycle?_of_none {m : Machine} (h : m.fault? = none) : m.cycle? = .ok m.cycle := by
  rw [cycle?, h]

variable {c k : Nat} {m : Machine}

theorem stepped_succ_of_dvd (h : c ∣ k + 1) :
    stepped c m (k + 1) = (stepped c m k).andThen fun x =>
      (runCycles 1 x).andThen fun y => ⟨y.timerStep, none⟩ := by
  rw [stepped]
  refine congrArg (stepped c m k).andThen (funext fun x => ?_)
  rw [runCycles]
  cases hx : x.fault? with
  | some f => rw [cycle?_of_fault hx]; rfl
  | none => rw [cycle?_of_none hx]; simp only [if_pos h]; rfl

theorem stepped_succ_of_not_dvd (h : ¬c ∣ k + 1) :
    stepped c m (k + 1) = (stepped c m k).andThen (runCycles 1) := by
  rw [stepped]
  refine congrArg (stepped c m k).andThen (funext fun x => ?_)
  rw [runCycles]
  cases hx : x.fault? with
  | some f => rw [cycle?_of_fault hx]
  | none => rw [cycle?_of_none hx]; simp only [if_neg h]; rfl

/-- Between two multiples of `c` there are only cycles. -/
theorem stepped_mul_add (n : Nat) {j : Nat} (hj : j < c) :
    stepped c m (n * c + j) = (stepped c m (n * c)).andThen (runCycles j) := by
  induction j with
  | zero =>
    rw [Nat.add_zero]
    rcases stepped c m (n * c) with ⟨x, _ | fault⟩ <;> rfl
  | succ j ih =>
    have hnot : ¬c ∣ n * c + j + 1 := by
      rw [Nat.add_assoc, Nat.dvd_add_right (Nat.dvd_mul_left c n)]
      exact Nat.not_dvd_of_pos_of_lt (Nat.succ_pos j) hj
    rw [← Nat.add_assoc, stepped_succ_of_not_dvd hnot, ih (Nat.lt_of_succ_lt hj),
      Outcome.andThen_assoc]
    exact congrArg (stepped c m (n * c)).andThen (funext fun x => (runCycles_add j 1 x).symm)

/-- From one multiple of `c` to the next there are `c` cycles and a timer step. -/
theorem stepped_succ_mul (n : Nat) (hc : 0 < c) :
    stepped c m ((n + 1) * c) = (stepped c m (n * c)).andThen fun x =>
      (runCycles c x).andThen fun y => ⟨y.timerStep, none⟩ := by
  obtain ⟨j, rfl⟩ : ∃ j, c = j + 1 := Nat.exists_eq_add_one.mpr hc
  have hindex : (n + 1) * (j + 1) = n * (j + 1) + j + 1 := Nat.succ_mul n (j + 1)
  have hdvd : j + 1 ∣ n * (j + 1) + j + 1 := hindex ▸ Nat.dvd_mul_left (j + 1) (n + 1)
  rw [hindex, stepped_succ_of_dvd hdvd, stepped_mul_add n (Nat.lt_succ_self j),
    Outcome.andThen_assoc]
  refine congrArg (stepped (j + 1) m (n * (j + 1))).andThen (funext fun x => ?_)
  rw [runCycles_add j 1, Outcome.andThen_assoc]

/-! ## What a row counts -/

variable {x : Machine}

/-- After `k` cycles in a row there have been `k / c` timer steps. -/
theorem counts_of_stepped (h : stepped c m k = ⟨x, none⟩) :
    x.cycles = m.cycles + k ∧ x.ticks = m.ticks + k / c ∧ x.settings = m.settings := by
  induction k generalizing x with
  | zero =>
    obtain rfl : m = x := congrArg Outcome.machine h
    exact ⟨rfl, by rw [Nat.zero_div, Nat.add_zero], rfl⟩
  | succ k ih =>
    rw [stepped] at h
    rcases hy : stepped c m k with ⟨y, _ | f⟩
    · obtain ⟨hcycles, hticks, hsettings⟩ := ih hy
      rw [hy, Outcome.andThen] at h
      cases hfault : y.fault? with
      | some f =>
        rw [cycle?_of_fault hfault] at h
        cases h
      | none =>
        rw [cycle?_of_none hfault] at h
        have hc : y.cycle.cycles = y.cycles + 1 := cycles_cycle y
        have ht : y.cycle.ticks = y.ticks := ticks_cycle y
        have hs : y.cycle.settings = y.settings := settings_cycle y
        obtain rfl : (if c ∣ k + 1 then y.cycle.timerStep else y.cycle) = x :=
          congrArg Outcome.machine h
        rw [Nat.succ_div]
        split
        · refine ⟨?_, ?_, hs.trans hsettings⟩
          · show y.cycle.cycles = m.cycles + (k + 1)
            omega
          · show y.cycle.ticks + 1 = m.ticks + (k / c + 1)
            omega
        · refine ⟨?_, ?_, hs.trans hsettings⟩ <;> omega
    · rw [hy] at h
      cases h

/-- A fault ends a row for good. -/
theorem stepped_of_fault {f : Fault} {n : Nat} (h : stepped c m k = ⟨x, some f⟩) (hk : k ≤ n) :
    stepped c m n = ⟨x, some f⟩ := by
  induction n, hk using Nat.le_induction with
  | base => exact h
  | succ n _ ih => rw [stepped, ih]; rfl

/-- A row ends with a fault exactly when, after fewer cycles, the next one has that fault. -/
theorem stepped_eq_fault_iff {f : Fault} {n : Nat} :
    stepped c m n = ⟨x, some f⟩ ↔ ∃ k < n, stepped c m k = ⟨x, none⟩ ∧ x.fault? = some f := by
  constructor
  · intro h
    induction n with
    | zero => cases h
    | succ n ih =>
      rw [stepped] at h
      rcases hy : stepped c m n with ⟨y, _ | g⟩
      · rw [hy, Outcome.andThen] at h
        cases hfault : y.fault? with
        | some g =>
          rw [cycle?_of_fault hfault] at h
          obtain ⟨rfl, rfl⟩ : y = x ∧ g = f := by simpa using h
          exact ⟨n, Nat.lt_succ_self n, hy, hfault⟩
        | none =>
          rw [cycle?_of_none hfault] at h
          cases h
      · rw [hy] at h
        obtain ⟨k, hk, hx⟩ := ih (hy.trans h)
        exact ⟨k, Nat.lt_succ_of_lt hk, hx⟩
  · rintro ⟨k, hk, hx, hf⟩
    refine stepped_of_fault (k := k + 1) ?_ hk
    rw [stepped, hx, Outcome.andThen, cycle?_of_fault hf]

/-! ## Runs -/

/-- A run is a row of cycles. -/
theorem run_eq_stepped (n : Nat) (m : Machine) :
    run n m = stepped m.settings.cycles m (n * m.settings.cycles) := by
  induction n with
  | zero => rw [Nat.zero_mul]; rfl
  | succ n ih =>
    rw [run_add, stepped_succ_mul n m.settings.one_le_cycles, ih]
    rcases hx : stepped m.settings.cycles m (n * m.settings.cycles) with ⟨x, _ | f⟩
    · obtain ⟨-, -, hsettings⟩ := counts_of_stepped hx
      show run 1 x = (runCycles m.settings.cycles x).andThen fun y => ⟨y.timerStep, none⟩
      rw [run_one, tick_eq_andThen, hsettings]
    · rfl

/-- A run of `n` ticks is a row of cycles, with a timer step after as many of them as a tick has. A
row of `k` cycles without a fault counts `k` cycles and a timer step for each tick that it
completes; so a run without a fault counts `n` timer steps. A run ends with a fault exactly when
a shorter row leads to a machine whose next cycle has that fault, and it is this machine that the run
leaves behind. A run in two parts is one run. The bare machine runs in the same way. -/
theorem run_stepwise (m : Machine) :
    let c := m.settings.cycles
    (∀ n, run n m = stepped c m (n * c)) ∧
    (∀ k x, stepped c m k = ⟨x, none⟩ → x.cycles = m.cycles + k ∧ x.ticks = m.ticks + k / c) ∧
    (∀ n x, run n m = ⟨x, none⟩ → x.cycles = m.cycles + n * c ∧ x.ticks = m.ticks + n) ∧
    (∀ n x f, run n m = ⟨x, some f⟩ ↔
      ∃ k < n * c, stepped c m k = ⟨x, none⟩ ∧ x.fault? = some f) ∧
    (∀ a b, run (a + b) m = (run a m).andThen (run b)) ∧
    ∀ n d, m.random.Gives d → (BareMachine.run n).run (m.bare d) = (run n m).result d () := by
  intro c
  refine ⟨fun n => run_eq_stepped n m, fun k x hx => ?_, fun n x hx => ?_, fun n x f => ?_,
    fun a b => run_add a b m, fun n d hd => BareMachine.run_run m n hd⟩
  · obtain ⟨hcycles, hticks, -⟩ := counts_of_stepped hx
    exact ⟨hcycles, hticks⟩
  · rw [run_eq_stepped] at hx
    obtain ⟨hcycles, hticks, -⟩ := counts_of_stepped hx
    rw [Nat.mul_div_cancel n m.settings.one_le_cycles] at hticks
    exact ⟨hcycles, hticks⟩
  · rw [run_eq_stepped]
    exact stepped_eq_fault_iff

/-- One instruction in a tick, and a program that jumps to where there is no program. -/
def leap : Machine :=
  { new { cycles := 1 } (.tape (fun _ => 0) 0) with
    memory := Memory.zero.writeAll 0x200 [0x1F, 0x00], delay := 5 }

/-- The second instruction of `leap` has a fault, right after a tick that is complete. -/
theorem run_stepwise_leap :
    let x := leap.cycle.timerStep
    run 2 leap = ⟨x, some (.unknownOpcode 0 0xF00)⟩ ∧
      x.cycles = leap.cycles + 1 ∧ x.ticks = leap.ticks + 1 / 1 := by
  intro x
  obtain ⟨-, hcounts, -, hfault, -⟩ := run_stepwise leap
  have hcycle : leap.cycle? = .ok leap.cycle := cycle?_of_none (by decide +kernel)
  have hstepped : stepped 1 leap 1 = ⟨x, none⟩ := by
    rw [stepped, stepped, Outcome.andThen]
    simp only [hcycle]
    rfl
  exact ⟨(hfault 2 x _).mpr ⟨1, by decide, hstepped, by decide +kernel⟩, hcounts 1 x hstepped⟩

end ChipEight.Machine
