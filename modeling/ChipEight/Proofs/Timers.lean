import ChipEight.Proofs.History
import ChipEight.Proofs.Waiting

/-!
# Timers

The two timers are set by an instruction each and count down once at the end of a tick, however many cycles
the tick has. The cycles of a tick hand a timer on from one to the next, and only its own instruction
changes it (`Timer.value_cycle`). So at any moment inside a tick a timer shows what it was last set to in
this tick, or what it showed before the tick (`Leads.timer`); this is also what an instruction reads. At the
end of the tick there is one less, but not less than zero.
-/

namespace ChipEight

namespace Machine

/-- A timer of the machine. -/
inductive Timer where
  | delay
  | sound
  deriving DecidableEq, Repr

namespace Timer

/-- What a timer shows. -/
def value : Timer → Machine → UInt8
  | delay, m => m.delay
  | sound, m => m.sound

/-- The instruction that sets a timer to VX. -/
def setter : Timer → Op
  | delay => .setDelay
  | sound => .setSound

/-- The cycles among those listed that set a timer. -/
def setting (t : Timer) (ms : List Machine) : List Machine := ms.filter fun x => x.currentOp = t.setter

/-- What a timer was last set to by the cycles that begin at the listed machines, or else what it showed at
first. -/
def lastSet (t : Timer) (start : UInt8) (ms : List Machine) : UInt8 :=
  match (t.setting ms).getLast? with
  | some x => x.reg x.fetch.x
  | none => start

variable (t : Timer)

theorem lastSet_cons (start : UInt8) (x : Machine) (xs : List Machine) :
    t.lastSet start (x :: xs) =
      t.lastSet (if x.currentOp = t.setter then x.reg x.fetch.x else start) xs := by
  by_cases hop : x.currentOp = t.setter
  · have hsetting : t.setting (x :: xs) = x :: t.setting xs :=
      List.filter_cons_of_pos (decide_eq_true hop)
    rw [lastSet, hsetting, List.getLast?_cons, if_pos hop, lastSet]
    cases (t.setting xs).getLast? <;> rfl
  · have hsetting : t.setting (x :: xs) = t.setting xs :=
      List.filter_cons_of_neg (by simpa using hop)
    rw [lastSet, hsetting, if_neg hop, lastSet]

theorem lastSet_of_forall_ne {start : UInt8} {ms : List Machine}
    (h : ∀ x ∈ ms, x.currentOp ≠ t.setter) : t.lastSet start ms = start := by
  have hnone : t.setting ms = [] :=
    List.filter_eq_nil_iff.mpr fun x hx => by simpa using h x hx
  rw [lastSet, hnone]
  rfl

/-- A cycle sets a timer if its instruction is the one that does so, and leaves it alone otherwise. -/
theorem value_cycle (m : Machine) :
    t.value m.cycle = if m.currentOp = t.setter then m.reg m.fetch.x else t.value m := by
  have heffect : t.value m.cycle = t.value (m.effect m.currentOp m.fetch) := by
    cases t <;> rfl
  rw [heffect]
  by_cases hop : m.currentOp = t.setter
  · rw [if_pos hop, hop]
    cases t <;> rfl
  · rw [if_neg hop]
    cases t with
    | delay => exact same_effect m m.fetch (p := .delay) hop
    | sound => exact same_effect m m.fetch (p := .sound) hop

/-- At the end of a tick a timer shows one less. -/
theorem toNat_value_timerStep (m : Machine) :
    (t.value m.timerStep).toNat = (t.value m).toNat - 1 := by
  cases t with
  | delay => exact (congrArg UInt8.toNat (countDown_eq_lowered m.delay)).trans (toNat_lowered _ 1)
  | sound => exact (congrArg UInt8.toNat (countDown_eq_lowered m.sound)).trans (toNat_lowered _ 1)

end Timer

/-! ## Inside a tick -/

/-- Cycles one after the other hand every view of the machine on. -/
theorem leads_watchCycles {α : Type} (f : Machine → α) (n : Nat) (m : Machine) :
    Leads f (f m) (watchCycles note n m []).2 (f (runCycles n m).machine) := by
  induction n generalizing m with
  | zero => rfl
  | succ n ih =>
    rw [watchCycles, runCycles, note]
    cases hm : m.fault? with
    | some fault => rfl
    | none =>
      show Leads f (f m) (watchCycles note n m.cycle [m]).2 (f (runCycles n m.cycle).machine)
      rw [snd_watchCycles_note]
      exact ⟨rfl, hm, ih m.cycle⟩

/-- Along cycles one after the other, a timer shows at each of them what it was last set to, and so it does
at the end. -/
theorem Leads.timer (t : Timer) {a b : UInt8} {ms : List Machine} (h : Leads t.value a ms b) :
    b = t.lastSet a ms ∧
      ∀ before x after, ms = before ++ x :: after → t.value x = t.lastSet a before := by
  induction ms generalizing a with
  | nil =>
    refine ⟨h.symm, ?_⟩
    intro before x after hsplit
    cases before <;> cases hsplit
  | cons y ys ih =>
    obtain ⟨rfl, -, hys⟩ := h
    rw [t.value_cycle] at hys
    obtain ⟨hend, hinside⟩ := ih hys
    refine ⟨hend.trans (t.lastSet_cons _ y ys).symm, ?_⟩
    intro before x after hsplit
    cases before with
    | nil =>
      obtain ⟨rfl, -⟩ := List.cons.inj hsplit
      rfl
    | cons z before =>
      obtain ⟨rfl, hrest⟩ := List.cons.inj hsplit
      rw [hinside before x after hrest, t.lastSet_cons]

theorem history_tick (fs : Files) (m : Machine) :
    history fs m [.tick] = (watchCycles note m.settings.cycles m []).2 :=
  snd_watchTick_note m []

theorem reg_cycle_of_readDelay {m : Machine} (hop : m.currentOp = .readDelay) :
    m.cycle.reg m.fetch.x = m.delay := by
  show (m.effect m.currentOp m.fetch).reg m.fetch.x = _
  rw [hop]
  exact reg_setReg_self m m.fetch.x m.delay

/-- A tick without a fault carries out all of its cycles and then makes its timer step. -/
theorem eq_of_tick {m m' : Machine} (h : m.tick = ⟨m', none⟩) :
    m' = (runCycles m.settings.cycles m).machine.timerStep := by
  rw [tick_eq_andThen] at h
  rcases hend : runCycles m.settings.cycles m with ⟨y, _ | fault⟩
  · rw [hend] at h
    exact (congrArg Outcome.machine h).symm
  · rw [hend] at h
    cases h

/-- The cycles of the history of a tick are those that the machine counts. -/
theorem length_history_tick (fs : Files) {m m' : Machine} (h : m.tick = ⟨m', none⟩) :
    (history fs m [.tick]).length = m.settings.cycles := by
  have htick : Operation.tick ≠ .reset := nofun
  have hhistory : m'.cycles = m.cycles + (history fs m [.tick]).length := by
    rw [← cycles_apply fs m htick, apply, Outcome.snd_reply, h]
  have hrow : stepped m.settings.cycles m (1 * m.settings.cycles) = ⟨m', none⟩ := by
    rw [← run_eq_stepped, run_one, h]
  obtain ⟨hcounted, -, -⟩ := counts_of_stepped hrow
  omega

/-- What a timer shows after a tick. -/
theorem toNat_value_of_tick (fs : Files) (t : Timer) {m m' : Machine} (h : m.tick = ⟨m', none⟩) :
    (t.value m').toNat = (t.lastSet (t.value m) (history fs m [.tick])).toNat - 1 := by
  have hend := (leads_watchCycles t.value m.settings.cycles m).timer.1
  rw [eq_of_tick h, t.toNat_value_timerStep, hend, history_tick]

/-! ## Ticks one after the other -/

/-- A run sees its first tick and then what is left of it. -/
theorem history_run_succ (fs : Files) (n : Nat) {m m' : Machine} (h : m.tick = ⟨m', none⟩) :
    history fs m [.run (n + 1)] = history fs m [.tick] ++ history fs m' [.run n] := by
  show (watchRun note (n + 1) m []).2 = (watchTick note m []).2 ++ (watchRun note n m' []).2
  rw [snd_watchRun_note_succ, h, snd_watchRun_note]

theorem toNat_value_of_run (fs : Files) (t : Timer) {n : Nat} {m m' : Machine}
    (h : run n m = ⟨m', none⟩) (hne : ∀ x ∈ history fs m [.run n], x.currentOp ≠ t.setter) :
    (t.value m').toNat = (t.value m).toNat - n := by
  induction n generalizing m with
  | zero =>
    obtain rfl : m = m' := congrArg Outcome.machine h
    rfl
  | succ n ih =>
    rw [run_succ] at h
    rcases hy : m.tick with ⟨y, _ | fault⟩
    · rw [hy] at h
      rw [history_run_succ fs n hy] at hne
      have hfirst : ∀ x ∈ history fs m [.tick], x.currentOp ≠ t.setter :=
        fun x hx => hne x (List.mem_append_left _ hx)
      have hrest : ∀ x ∈ history fs y [.run n], x.currentOp ≠ t.setter :=
        fun x hx => hne x (List.mem_append_right _ hx)
      rw [ih h hrest, toNat_value_of_tick fs t hy, t.lastSet_of_forall_ne hfirst]
      omega
    · rw [hy] at h
      cases h

/-- What the delay timer is read as inside a tick. -/
theorem reg_of_readDelay_of_tick (fs : Files) {m x : Machine} {before after : List Machine}
    (hsplit : history fs m [.tick] = before ++ x :: after) (hop : x.currentOp = .readDelay) :
    x.cycle.reg x.fetch.x = Timer.delay.lastSet m.delay before := by
  have hinside := (leads_watchCycles Timer.delay.value m.settings.cycles m).timer.2
  rw [history_tick] at hsplit
  rw [reg_cycle_of_readDelay hop]
  exact hinside before x after hsplit

/-- A tick without a fault has all of its cycles in its history and leaves in a timer what the timer was
last set to in them, or else what it showed before, lowered by one but not below zero. An instruction that
reads the delay timer inside a tick gets what was last set before it in this tick, or else what there was
before the tick, and nothing is subtracted from that yet. A run without a fault whose cycles do not set a
timer lowers it by the number of its ticks, but not below zero. -/
theorem timers_exact (fs : Files) (m : Machine) :
    (∀ m', m.tick = ⟨m', none⟩ →
      (history fs m [.tick]).length = m.settings.cycles ∧
      ∀ t : Timer, (t.value m').toNat =
        (t.lastSet (t.value m) (history fs m [.tick])).toNat - 1) ∧
    (∀ before x after, history fs m [.tick] = before ++ x :: after → x.currentOp = .readDelay →
      x.cycle.reg x.fetch.x = Timer.delay.lastSet m.delay before) ∧
    ∀ n m', run n m = ⟨m', none⟩ →
      ∀ t : Timer, (∀ x ∈ history fs m [.run n], x.currentOp ≠ t.setter) →
        (t.value m').toNat = (t.value m).toNat - n := by
  refine ⟨?_, ?_, ?_⟩
  · intro m' h
    exact ⟨length_history_tick fs h, fun t => toNat_value_of_tick fs t h⟩
  · intro before x after hsplit hop
    exact reg_of_readDelay_of_tick fs hsplit hop
  · intro n m' h t hne
    exact toNat_value_of_run fs t h hne

/-- A program of two instructions in a tick that sets the delay timer to 9 and reads it back, and then runs
on the spot. -/
def timing : Machine :=
  { new (Settings.standard.withCycles 2) (.tape (fun _ => 0) 0) with
    memory := Memory.zero.writeAll 0x200 [0xF0, 0x15, 0xF1, 0x07, 0x12, 0x04]
    v := Vector.replicate 16 9, delay := 5, sound := 1 }

/-- The program reads 9, and 8 is left at the end of the tick. The sound timer, which it does not set, is at
zero after two ticks, as it is after one. -/
theorem timers_exact_timing :
    let x := timing.cycle
    x.currentOp = .readDelay ∧ x.cycle.reg x.fetch.x = 9 ∧ timing.tick.machine.delay.toNat = 8 ∧
      (run 2 timing).machine.sound.toNat = 0 := by
  intro x
  let fs : Files := ⟨fun _ => .missing, fun _ => none⟩
  obtain ⟨hticked, hread, hrun⟩ := timers_exact fs timing
  have hends (o : Outcome) (ho : o.fault? = none) : o = ⟨o.machine, none⟩ := by rw [← ho]
  have htick : timing.tick = ⟨timing.tick.machine, none⟩ := hends _ (by decide +kernel)
  have htwice : run 2 timing = ⟨(run 2 timing).machine, none⟩ := hends _ (by decide +kernel)
  have hhistory : history fs timing [.tick] = [timing] ++ x :: [] := by
    have hfirst : timing.fault? = none := by decide +kernel
    have hsecond : timing.cycle.fault? = none := by decide +kernel
    have hcycles : timing.settings.cycles = 2 := rfl
    rw [history_tick, hcycles]
    simp only [watchCycles, note, hfirst, hsecond]
    rfl
  have hop : x.currentOp = .readDelay := by decide +kernel
  have hset : Timer.delay.lastSet timing.delay [timing] = 9 := by decide +kernel
  have hset' : Timer.delay.lastSet timing.delay (history fs timing [.tick]) = 9 := by
    rw [hhistory]
    decide +kernel
  have hdelay : timing.tick.machine.delay.toNat =
      (Timer.delay.lastSet timing.delay (history fs timing [.tick])).toNat - 1 :=
    (hticked _ htick).2 .delay
  rw [hset'] at hdelay
  exact ⟨hop, (hread _ _ _ hhistory hop).trans hset, hdelay, hrun 2 _ htwice .sound (by decide +kernel)⟩

end Machine

end ChipEight
