import ChipEight.Proofs.Bare.Execution

/-!
# Faults

A cycle has one of three faults or none, and which one is decided by the word at `PC` and the depth
of the stack alone (`fault?_eq_none_iff` and its neighbours). A fault leaves no trace, not even on
the bare machine, whose instructions write as they go. So it sticks: until a host loads or resets,
every attempt to go on meets the same fault.
-/

namespace ChipEight.Machine

variable {m : Machine} {f : Fault}

/-! ## When a cycle has a fault -/

theorem fault?_eq_unknownOpcode_iff {w a : Word} :
    m.fault? = some (.unknownOpcode w a) ↔ m.currentOp = .unknown ∧ w = m.fetch ∧ a = m.pc := by
  unfold fault?
  cases m.currentOp with
  | unknown => simp [faultOf?, eq_comm]
  | _ => simp [faultOf?]

theorem fault?_eq_stackOverflow_iff {a : Word} :
    m.fault? = some (.stackOverflow a) ↔
      m.currentOp = .call ∧ m.stack.depth.val = 16 ∧ a = m.pc := by
  unfold fault?
  cases m.currentOp with
  | call => simp [faultOf?, eq_comm]
  | _ => simp [faultOf?]

theorem fault?_eq_stackUnderflow_iff {a : Word} :
    m.fault? = some (.stackUnderflow a) ↔
      m.currentOp = .ret ∧ m.stack.depth.val = 0 ∧ a = m.pc := by
  unfold fault?
  cases m.currentOp with
  | ret => simp [faultOf?, eq_comm]
  | _ => simp [faultOf?]

theorem fault?_eq_none_iff :
    m.fault? = none ↔ m.currentOp ≠ .unknown ∧
      ¬(m.currentOp = .call ∧ m.stack.depth.val = 16) ∧
      ¬(m.currentOp = .ret ∧ m.stack.depth.val = 0) := by
  unfold fault?
  cases m.currentOp <;> simp [faultOf?]

/-! ## Meeting a fault -/

theorem apply_cycle_of_fault (fs : Files) (h : m.fault? = some f) :
    m.apply fs .cycle = (.error (.fault f), m) := by
  simp [apply, runCycles, h, Outcome.reply]

theorem apply_cycle_of_none (fs : Files) (h : m.fault? = none) :
    m.apply fs .cycle = (.ok (.ran m.currentOp), m.cycle) := by
  simp [apply, runCycles, h, Outcome.reply]

theorem tick_of_fault (h : m.fault? = some f) : m.tick = ⟨m, some f⟩ := by
  -- A tick has at least one cycle, and the first one meets the fault.
  obtain ⟨n, hn⟩ : ∃ n, m.settings.cycles = n + 1 :=
    Nat.exists_eq_add_one.mpr m.settings.one_le_cycles
  rw [tick, hn, runCycles, h]

theorem run_of_fault (n : Nat) (h : m.fault? = some f) : run (n + 1) m = ⟨m, some f⟩ := by
  rw [run, tick_of_fault h]

/-- A fault stops every operation that goes on, and leaves the machine as it is. -/
theorem apply_of_fault (fs : Files) (h : m.fault? = some f) {op : Operation} (hop : op.executes)
    (hrun : op ≠ .run 0) : m.apply fs op = (.error (.fault f), m) := by
  cases op with
  | cycle => exact apply_cycle_of_fault fs h
  | tick => simp [apply, tick_of_fault h, Outcome.reply]
  | run n =>
    cases n with
    | zero => exact absurd rfl hrun
    | succ n => simp [apply, run_of_fault n h, Outcome.reply]
  | _ => cases hop

theorem snd_apply_of_fault (fs : Files) (h : m.fault? = some f) {op : Operation}
    (hop : op.executes) : (m.apply fs op).2 = m := by
  by_cases hrun : op = .run 0
  · rw [hrun]
    rfl
  · rw [apply_of_fault fs h hop hrun]

/-! ## Where a fault ends a run -/

theorem fault?_of_runCycles {n : Nat} (h : (runCycles n m).fault? = some f) :
    (runCycles n m).machine.fault? = some f := by
  induction n generalizing m with
  | zero => cases h
  | succ n ih =>
    rw [runCycles] at h ⊢
    cases hm : m.fault? with
    | some g =>
      rw [hm] at h
      cases h
      exact hm
    | none =>
      rw [hm] at h
      exact ih h

theorem fault?_of_tick (h : m.tick.fault? = some f) : m.tick.machine.fault? = some f := by
  have hcycles (hc : (runCycles m.settings.cycles m).fault? = some f) :=
    fault?_of_runCycles hc
  rw [tick] at h ⊢
  generalize runCycles m.settings.cycles m = o at h hcycles
  obtain ⟨m', _ | g⟩ := o
  · cases h
  · exact hcycles h

theorem fault?_of_run {n : Nat} (h : (run n m).fault? = some f) :
    (run n m).machine.fault? = some f := by
  induction n generalizing m with
  | zero => cases h
  | succ n ih =>
    have htick (ht : m.tick.fault? = some f) := fault?_of_tick ht
    rw [run] at h ⊢
    generalize m.tick = o at h htick
    obtain ⟨m', _ | g⟩ := o
    · exact ih h
    · exact htick h

/-- A fault that ends an operation is one of the machine that is left behind. -/
theorem fault?_of_apply (fs : Files) {op : Operation}
    (h : (m.apply fs op).1 = .error (.fault f)) : (m.apply fs op).2.fault? = some f := by
  have hreply {o : Outcome} {r : Reply} (ho : (o.reply r).1 = .error (.fault f)) :
      o.fault? = some f := by
    obtain ⟨m', _ | g⟩ := o
    · cases ho
    · cases ho
      rfl
  cases op with
  | cycle =>
    rw [apply, Outcome.snd_reply]
    exact fault?_of_runCycles (hreply h)
  | tick =>
    rw [apply, Outcome.snd_reply]
    exact fault?_of_tick (hreply h)
  | run n =>
    rw [apply, Outcome.snd_reply]
    exact fault?_of_run (hreply h)
  | reset => cases h
  | _ =>
    -- The host is refused for other reasons.
    rw [apply] at h
    split at h <;> cases h

/-! ## A fault sticks -/

/-- At a fault, a host that neither loads nor resets changes keys and settings at most. -/
theorem apply_isHandsOff (fs : Files) (h : m.fault? = some f) {op : Operation}
    (hop : op.isHandsOff) :
    ∃ keypad settings, (m.apply fs op).2 = { m with keypad, settings } := by
  cases hexec : op.executes with
  | true => exact ⟨m.keypad, m.settings, snd_apply_of_fault fs h hexec⟩
  | false =>
    have hreset : op ≠ .reset := by
      rintro rfl
      cases hop
    obtain ⟨memory, keypad, settings, hm, hmemory⟩ := apply_of_host fs m hexec hreset
    rw [hm, hmemory hop]
    exact ⟨keypad, settings, rfl⟩

theorem applyAll_isHandsOff (fs : Files) (h : m.fault? = some f) {ops : List Operation}
    (hops : ∀ op ∈ ops, op.isHandsOff) :
    ∃ keypad settings, m.applyAll fs ops = { m with keypad, settings } := by
  induction ops generalizing m with
  | nil => exact ⟨m.keypad, m.settings, rfl⟩
  | cons op ops ih =>
    obtain ⟨keypad, settings, hm⟩ := apply_isHandsOff fs h (hops op List.mem_cons_self)
    have hrest (op' : Operation) (hmem : op' ∈ ops) := hops op' (List.mem_cons_of_mem _ hmem)
    rw [applyAll, List.foldl_cons, hm]
    exact ih (m := { m with keypad, settings }) h hrest

/-- The answer to a cycle is a fault exactly when the machine has that fault. -/
theorem fst_apply_cycle_eq_error_iff (fs : Files) {e : Refusal} :
    (m.apply fs .cycle).1 = .error e ↔ ∃ f, m.fault? = some f ∧ e = .fault f := by
  cases h : m.fault? with
  | none => simp [apply_cycle_of_none fs h]
  | some f => simp [apply_cycle_of_fault fs h, eq_comm]

theorem fst_apply_cycle_eq_fault_iff (fs : Files) :
    (m.apply fs .cycle).1 = .error (.fault f) ↔ m.fault? = some f := by
  simp [fst_apply_cycle_eq_error_iff]

/-- A cycle fails exactly on a word that is no instruction, on a call with a full stack and on a
return with an empty one, and is carried out in all other cases. Whatever its fault is, from then
on hands-off operations change keys and settings at most, and every further cycle, tick and run
meets the same fault and changes nothing, on the bare machine as well. -/
theorem fault_exact_and_sticky (m : Machine) (fs : Files) (d : Nat → Int)
    (hd : m.random.Gives d) :
    (∀ w a, (m.apply fs .cycle).1 = .error (.fault (.unknownOpcode w a)) ↔
      decode m.fetch = .unknown ∧ w = m.fetch ∧ a = m.pc) ∧
    (∀ a, (m.apply fs .cycle).1 = .error (.fault (.stackOverflow a)) ↔
      decode m.fetch = .call ∧ m.stack.depth.val = 16 ∧ a = m.pc) ∧
    (∀ a, (m.apply fs .cycle).1 = .error (.fault (.stackUnderflow a)) ↔
      decode m.fetch = .ret ∧ m.stack.depth.val = 0 ∧ a = m.pc) ∧
    (decode m.fetch ≠ .unknown → ¬(decode m.fetch = .call ∧ m.stack.depth.val = 16) →
      ¬(decode m.fetch = .ret ∧ m.stack.depth.val = 0) →
      m.apply fs .cycle = (.ok (.ran (decode m.fetch)), m.cycle)) ∧
    ∀ e, (m.apply fs .cycle).1 = .error e →
      ∀ ops : List Operation, (∀ op ∈ ops, op.isHandsOff) →
        (∃ keypad settings, m.applyAll fs ops = { m with keypad, settings }) ∧
        ∀ op : Operation, op.executes → op ≠ .run 0 →
          (m.applyAll fs ops).apply fs op = (.error e, m.applyAll fs ops) ∧
          (BareMachine.apply fs op).run ((m.applyAll fs ops).bare d) =
            .error e.stop ((m.applyAll fs ops).bare d) := by
  refine ⟨fun w a => ?_, fun a => ?_, fun a => ?_, fun hunknown hcall hret => ?_, ?_⟩
  · rw [fst_apply_cycle_eq_fault_iff]
    exact fault?_eq_unknownOpcode_iff
  · rw [fst_apply_cycle_eq_fault_iff]
    exact fault?_eq_stackOverflow_iff
  · rw [fst_apply_cycle_eq_fault_iff]
    exact fault?_eq_stackUnderflow_iff
  · exact apply_cycle_of_none fs (fault?_eq_none_iff.mpr ⟨hunknown, hcall, hret⟩)
  · intro e he ops hops
    obtain ⟨f, hf, rfl⟩ := (fst_apply_cycle_eq_error_iff fs).mp he
    obtain ⟨keypad, settings, hm⟩ := applyAll_isHandsOff fs hf hops
    refine ⟨⟨keypad, settings, hm⟩, fun op hop hrun => ?_⟩
    -- Keys and settings have no say in whether there is a fault, nor in the random source.
    have hfault : (m.applyAll fs ops).fault? = some f := by
      rw [hm]
      exact hf
    have hgives : (m.applyAll fs ops).random.Gives d := by
      rw [hm]
      exact hd
    have happly := apply_of_fault fs hfault hop hrun
    refine ⟨happly, ?_⟩
    rw [BareMachine.run_apply _ fs hgives op, happly]
    rfl

/-- At power-on there is no instruction to carry out; pressing a key, turning over a switch and
trying a tick do not help. -/
theorem fault_exact_and_sticky_new :
    let m := new .standard (.tape (fun k => byteOfInt ((fun _ => 0 : Nat → Int) k)) 0)
    let fs : Files := ⟨fun _ => .missing, fun _ => none⟩
    let m' := m.applyAll fs [.press (.name "A"), .toggle "j", .tick]
    m'.apply fs (.run 3) = (.error (.fault (.unknownOpcode 0 0x200)), m') := by
  intro m fs m'
  have hd := RandomSource.gives_tape (fun _ => 0) 0
  have h := fault_exact_and_sticky m fs (fun _ => 0) hd
  have hfetch : m.fetch = 0 := by decide +kernel
  have hfault : (m.apply fs .cycle).1 = .error (.fault (.unknownOpcode 0 0x200)) :=
    (h.1 0 0x200).mpr ⟨by rw [hfetch]; decide, hfetch.symm, rfl⟩
  exact ((h.2.2.2.2 _ hfault _ (by decide)).2 (.run 3) rfl nofun).1

end ChipEight.Machine
