import ChipEight.Proofs.Faults
import ChipEight.Proofs.Stepwise

/-!
# Waiting for a key

An instruction that awaits a key while none is pressed is carried out over and over: it stays at `PC`
and changes nothing that it looks at. Ticks still pass, so the timers run down and the counts go on
(`Waits.run`). Once the host presses keys, the next cycle takes the lowest of them and moves on
(`waits_for_key`).
-/

namespace ChipEight

/-! ## The lowest key -/

namespace Keypad

variable {keypad : Keypad} {a : Key}

theorem first?_eq_none (h : keypad.pressed = []) : keypad.first? = none := by
  rw [first?_eq_head?, h]
  rfl

theorem first?_eq_some (ha : a ∈ keypad.pressed) (hleast : ∀ b ∈ keypad.pressed, a ≤ b) :
    keypad.first? = some a := by
  have hpressed : keypad.keys.get a = true := mem_pressed.mp ha
  cases h : keypad.first? with
  | none => exact absurd hpressed (List.find?_eq_none.mp h a (List.mem_finRange a))
  | some b =>
    -- Nothing before the key found is pressed, and the keys come in ascending order.
    obtain ⟨hb, before, after, hsplit, hbefore⟩ := List.find?_eq_some_iff_append.mp h
    have hab : a ≤ b := hleast b (mem_pressed.mpr hb)
    have hnot : a ∉ before := fun hmem => by simpa [hpressed] using hbefore a hmem
    have hmem : a ∈ before ++ b :: after := hsplit ▸ List.mem_finRange a
    have hsorted : (before ++ b :: after).Pairwise (· < ·) := hsplit ▸ List.pairwise_lt_finRange 16
    have hba : b ≤ a := by
      rcases List.mem_cons.mp ((List.mem_append.mp hmem).resolve_left hnot) with rfl | hafter
      · exact le_rfl
      · exact le_of_lt (List.rel_of_pairwise_cons (List.pairwise_append.mp hsorted).2.1 hafter)
    rw [le_antisymm hab hba]

/-- The first key is the least of those that are pressed. -/
theorem first?_eq_min' (K : Finset Key) (hK : K.Nonempty)
    (h : ∀ k, k ∈ keypad.pressed ↔ k ∈ K) : keypad.first? = some (K.min' hK) :=
  first?_eq_some ((h _).mpr (K.min'_mem hK)) fun b hb => K.min'_le b ((h b).mp hb)

end Keypad

namespace Machine

/-! ## Presses -/

/-- Pressing keys changes the keypad alone, and adds to the pressed keys those that are meant. -/
theorem applyAll_press (fs : Files) (m : Machine) (refs : List KeyRef) :
    ∃ keypad, m.applyAll fs (refs.map .press) = { m with keypad } ∧
      ∀ k, k ∈ keypad.pressed ↔ k ∈ m.keypad.pressed ∨ ∃ ref ∈ refs, ref.index = .ok k := by
  induction refs generalizing m with
  | nil => exact ⟨m.keypad, rfl, by simp⟩
  | cons ref refs ih =>
    rw [List.map_cons, applyAll, List.foldl_cons, apply]
    cases href : ref.index with
    | error e =>
      obtain ⟨keypad, happly, hmem⟩ := ih m
      exact ⟨keypad, happly, fun k => by simp [hmem, href]⟩
    | ok a =>
      obtain ⟨keypad, happly, hmem⟩ := ih (m.press a)
      refine ⟨keypad, happly, fun k => ?_⟩
      have hpress : k ∈ (m.press a).keypad.pressed ↔ a = k ∨ k ∈ m.keypad.pressed := by
        rw [Keypad.mem_pressed, Keypad.mem_pressed, press, Keypad.press, Keypad.get_set]
        by_cases hak : a = k <;> simp [hak]
      rw [hmem, hpress, List.exists_mem_cons_iff, href, Except.ok.injEq]
      tauto

/-! ## The wait -/

/-- A timer after a number of counts. -/
def lowered (t : UInt8) (n : Nat) : UInt8 := UInt8.ofNat (t.toNat - n)

theorem toNat_lowered (t : UInt8) (n : Nat) : (lowered t n).toNat = t.toNat - n := by
  have := t.toNat_lt
  rw [lowered, UInt8.toNat_ofNat']
  omega

theorem lowered_zero (t : UInt8) : lowered t 0 = t := UInt8.ofNat_toNat

theorem lowered_lowered (t : UInt8) (a b : Nat) : lowered (lowered t a) b = lowered t (a + b) := by
  rw [lowered, toNat_lowered, lowered, Nat.sub_sub]

theorem countDown_eq_lowered (t : UInt8) : countDown t = lowered t 1 := by
  have h := BareMachine.toNat_countDown t
  rw [← UInt8.toNat_inj, toNat_lowered]
  split at h <;> omega

/-- The machine after waiting for a number of timer steps and cycles. -/
def waited (m : Machine) (ticks cycles : Nat) : Machine :=
  { m with
    blocked := true, delay := lowered m.delay ticks, sound := lowered m.sound ticks,
    ticks := m.ticks + ticks, cycles := m.cycles + cycles }

theorem waited_waited (m : Machine) (t k t' k' : Nat) :
    (m.waited t k).waited t' k' = m.waited (t + t') (k + k') := by
  simp only [waited, lowered_lowered, Nat.add_assoc]

theorem timerStep_waited (m : Machine) (t k : Nat) :
    (m.waited t k).timerStep = m.waited (t + 1) k := by
  simp only [waited, timerStep, countDown_eq_lowered, lowered_lowered, Nat.add_assoc]

theorem fault?_of_awaitKey {m : Machine} (hop : m.currentOp = .awaitKey) : m.fault? = none := by
  rw [fault?, hop]
  rfl

/-- The machine awaits a key and none is pressed. -/
structure Waits (m : Machine) : Prop where
  op : m.currentOp = .awaitKey
  noKey : m.keypad.first? = none

namespace Waits

variable {m : Machine} (h : m.Waits)
include h

/-- Waiting changes nothing that the wait depends on. -/
theorem waited (t k : Nat) : (m.waited t k).Waits := ⟨h.op, h.noKey⟩

theorem cycle : m.cycle = m.waited 0 1 := by
  have hop : decode m.fetch = .awaitKey := h.op
  simp only [Machine.cycle, hop, effect, takeKey, advance, h.noKey, finish, Machine.waited,
    lowered_zero, Option.isSome_none, Bool.false_eq_true, if_false, UInt16.add_zero, Nat.add_zero]

theorem runCycles (k : Nat) : runCycles (k + 1) m = ⟨m.waited 0 (k + 1), none⟩ := by
  induction k generalizing m with
  | zero => rw [Machine.runCycles, fault?_of_awaitKey h.op, h.cycle]; rfl
  | succ k ih =>
    rw [Machine.runCycles, fault?_of_awaitKey h.op, h.cycle]
    show Machine.runCycles (k + 1) (m.waited 0 1) = _
    rw [ih (h.waited 0 1), waited_waited, Nat.add_comm 1 (k + 1)]

theorem tick : m.tick = ⟨m.waited 1 m.settings.cycles, none⟩ := by
  obtain ⟨k, hk⟩ : ∃ k, m.settings.cycles = k + 1 :=
    Nat.exists_eq_add_one.mpr m.settings.one_le_cycles
  rw [tick_eq_andThen, hk, h.runCycles k]
  show (⟨(m.waited 0 (k + 1)).timerStep, none⟩ : Outcome) = _
  rw [timerStep_waited]

theorem run (n : Nat) :
    run (n + 1) m = ⟨m.waited (n + 1) ((n + 1) * m.settings.cycles), none⟩ := by
  induction n generalizing m with
  | zero => rw [run_one, h.tick, Nat.one_mul]
  | succ n ih =>
    rw [run_succ, h.tick]
    show Machine.run (n + 1) (m.waited 1 m.settings.cycles) = _
    have hcycles : (m.waited 1 m.settings.cycles).settings.cycles = m.settings.cycles := rfl
    rw [ih (h.waited 1 _), hcycles, waited_waited, Nat.add_comm 1 (n + 1),
      Nat.add_comm m.settings.cycles, ← Nat.succ_mul]

end Waits

/-! ## A key is pressed -/

/-- A machine that awaits a key goes on with the lowest one that is pressed. -/
theorem apply_cycle_of_awaitKey (fs : Files) {m : Machine} {a : Key}
    (hop : m.currentOp = .awaitKey) (ha : m.keypad.first? = some a) :
    m.apply fs .cycle =
      (.ok (.ran .awaitKey),
        { m.setReg m.fetch.x (UInt8.ofNat a.val) with
          blocked := false
          pc := UInt16.ofNat ((m.pc.toNat + 2) % 0x10000)
          cycles := m.cycles + 1 }) := by
  have hdecode : decode m.fetch = .awaitKey := hop
  have hpc : m.pc + 2 = UInt16.ofNat ((m.pc.toNat + 2) % 0x10000) := by
    rw [← UInt16.toNat_inj, UInt16.toNat_add, UInt16.toNat_ofNat']
    exact (Nat.mod_mod _ _).symm
  rw [apply_cycle_of_none fs (fault?_of_awaitKey hop), hop, ← hpc]
  simp only [cycle, hdecode, effect, takeKey, advance, ha, finish, Option.isSome_some, if_true]
  rfl

/-- Without a key, a run changes nothing but the timers, the counts and the mark that the program
waits. When the host has pressed any keys after that, the next cycle writes the lowest of them to VX,
clears the mark, moves on and counts itself, and changes nothing else. -/
theorem waits_for_key (fs : Files) (m : Machine) (hop : decode m.fetch = .awaitKey)
    (hkeys : m.keypad.pressed = []) (n : Nat) (hn : 1 ≤ n) :
    let w := m.waited n (n * m.settings.cycles)
    m.apply fs (.run n) = (.ok .done, w) ∧
    ∀ (refs : List KeyRef) (K : Finset Key) (hK : K.Nonempty),
      (∀ k, k ∈ K ↔ ∃ ref ∈ refs, ref.index = .ok k) →
      ∃ keypad, w.applyAll fs (refs.map .press) = { w with keypad } ∧
        (∀ k, k ∈ keypad.pressed ↔ k ∈ K) ∧
        Machine.apply fs { w with keypad } .cycle =
          (.ok (.ran .awaitKey),
            { w.setReg m.fetch.x (UInt8.ofNat (K.min' hK).val) with
              keypad
              blocked := false
              pc := UInt16.ofNat ((m.pc.toNat + 2) % 0x10000)
              cycles := w.cycles + 1 }) := by
  intro w
  have hwaits : m.Waits := ⟨hop, Keypad.first?_eq_none hkeys⟩
  have hrun : run n m = ⟨w, none⟩ := by
    obtain ⟨n, rfl⟩ : ∃ k, n = k + 1 := Nat.exists_eq_add_one.mpr hn
    exact hwaits.run n
  refine ⟨by rw [apply, hrun]; rfl, fun refs K hK hrefs => ?_⟩
  obtain ⟨keypad, hpress, hmem⟩ := applyAll_press fs w refs
  have hpressed (k : Key) : k ∈ keypad.pressed ↔ k ∈ K := by
    have hnone : k ∉ w.keypad.pressed := by
      show k ∉ m.keypad.pressed
      rw [hkeys]
      exact List.not_mem_nil
    rw [hmem, hrefs, or_iff_right hnone]
  refine ⟨keypad, hpress, hpressed, ?_⟩
  have hop' : ({ w with keypad } : Machine).currentOp = .awaitKey := hop
  have hfirst : keypad.first? = some (K.min' hK) := Keypad.first?_eq_min' K hK hpressed
  rw [apply_cycle_of_awaitKey fs hop' hfirst]
  rfl

/-- A program that awaits a key for V4. -/
def awaiting : Machine :=
  { new .standard (.tape (fun _ => 0) 0) with
    memory := Memory.zero.writeAll 0x200 [0xF4, 0x0A], delay := 1 }

/-- Two ticks pass, keys 5 and 3 are pressed and a key that does not exist: the program gets 3. -/
theorem waits_for_key_awaiting :
    let fs : Files := ⟨fun _ => .missing, fun _ => none⟩
    let refs : List KeyRef := [.number (.int 5), .number (.int 3), .number (.int 16)]
    let w := awaiting.waited 2 (2 * awaiting.settings.cycles)
    awaiting.apply fs (.run 2) = (.ok .done, w) ∧
    ∃ keypad, w.applyAll fs (refs.map .press) = { w with keypad } ∧
      (Machine.apply fs { w with keypad } .cycle).2.reg 4 = 3 := by
  intro fs refs w
  have hfetch : awaiting.fetch = 0xF40A := by decide +kernel
  have hop : decode awaiting.fetch = .awaitKey := by
    rw [hfetch]
    decide
  obtain ⟨hrun, hkeys⟩ := waits_for_key fs awaiting hop rfl 2 (by decide)
  refine ⟨hrun, ?_⟩
  obtain ⟨keypad, hpress, -, hcycle⟩ :=
    hkeys refs {3, 5} (by decide) (by decide +kernel)
  refine ⟨keypad, hpress, ?_⟩
  rw [hcycle, hfetch]
  exact reg_setReg_self w 4 3

end Machine

end ChipEight
