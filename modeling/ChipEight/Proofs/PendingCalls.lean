import ChipEight.Machine.Report
import ChipEight.Proofs.Calls
import ChipEight.Proofs.Lockstep
import ChipEight.Proofs.Periphery

/-!
# Pending calls

Sixteen slots and the number of those in use stand for a list: the addresses of the calls that have
not returned yet, the oldest one first (`CallStack.frames`). `Op.onPending` says what an instruction
does to such a list, and `pendingAfter` follows it through operations.

The slots that are not in use hold what is left over from calls that have returned. Nothing looks at
it: machines that differ in nothing else do the same (`lockstep_differAbove`).
-/

namespace ChipEight

/-- What an instruction at an address makes of the pending calls; `none` when it fails. -/
def Op.onPending (op : Op) (pc : Word) (calls : List Word) : Option (List Word) :=
  match op with
  | .call => if calls.length < 16 then some (calls ++ [pc]) else none
  | .ret => if calls = [] then none else some calls.dropLast
  | _ => some calls

namespace CallStack

theorem length_frames_le (s : CallStack) : s.frames.length ≤ 16 := by
  rw [length_frames]
  exact Nat.le_of_lt_succ s.depth.isLt

theorem frames_eq_nil_iff (s : CallStack) : s.frames = [] ↔ s.depth.val = 0 := by
  rw [← List.length_eq_zero_iff, length_frames]

theorem frames_eq_of_slots {s t : CallStack} (hdepth : s.depth = t.depth)
    (hslots : ∀ k : Fin 16, k.val < s.depth.val → s.slots[k] = t.slots[k]) :
    s.frames = t.frames := by
  refine List.ext_getElem ?_ ?_
  · rw [length_frames, length_frames, hdepth]
  · intro k hs ht
    rw [length_frames] at hs
    have h16 : k < 16 := Nat.lt_of_lt_of_le hs (Nat.le_of_lt_succ s.depth.isLt)
    simp only [frames, List.getElem_take, Vector.getElem_toList]
    exact hslots ⟨k, h16⟩ hs

/-- Stacks with the same saved addresses take another one, or are both full. -/
theorem push?_of_frames_eq {s t : CallStack} (h : s.frames = t.frames) (a : Word) :
    Option.Rel (fun s t => s.frames = t.frames) (s.push? a) (t.push? a) := by
  have hdepth := depth_eq_of_frames_eq h
  cases hs : s.push? a with
  | none =>
    have ht : t.push? a = none := by rwa [push?_eq_none_iff, ← hdepth, ← push?_eq_none_iff s a]
    rw [ht]
    exact .none
  | some s' =>
    cases ht : t.push? a with
    | none =>
      rw [push?_eq_none_iff, ← hdepth, ← push?_eq_none_iff s a, hs] at ht
      cases ht
    | some t' =>
      refine .some ?_
      rw [frames_of_push? hs, frames_of_push? ht, h]

/-- Stacks with the same saved addresses give back the same one, or are both empty. -/
theorem pop?_of_frames_eq {s t : CallStack} (h : s.frames = t.frames) :
    Option.Rel (fun p q => p.1 = q.1 ∧ p.2.frames = q.2.frames) s.pop? t.pop? := by
  have hdepth := depth_eq_of_frames_eq h
  cases hs : s.pop? with
  | none =>
    have ht : t.pop? = none := by rwa [pop?_eq_none_iff, ← hdepth, ← pop?_eq_none_iff s]
    rw [ht]
    exact .none
  | some p =>
    cases ht : t.pop? with
    | none =>
      rw [pop?_eq_none_iff, ← hdepth, ← pop?_eq_none_iff s, hs] at ht
      cases ht
    | some q =>
      have happend : p.2.frames ++ [p.1] = q.2.frames ++ [q.1] := by
        rw [← frames_of_pop? hs, ← frames_of_pop? ht, h]
      obtain ⟨hframes, ha⟩ := List.append_inj' happend rfl
      exact .some ⟨List.head_eq_of_cons_eq ha, hframes⟩

end CallStack

namespace Machine

variable {m m' : Machine}

/-! ## Cycles -/

theorem length_frames_lt_of_call (hm : m.fault? = none) (hcall : m.currentOp = .call) :
    m.stack.frames.length < 16 := by
  have hroom : ¬m.stack.depth.val = 16 := fun h => (fault?_eq_none_iff.mp hm).2.1 ⟨hcall, h⟩
  rw [← CallStack.length_frames] at hroom
  exact Nat.lt_of_le_of_ne m.stack.length_frames_le hroom

/-- A cycle does to the saved addresses what its instruction does to pending calls. -/
theorem onPending_frames (hm : m.fault? = none) :
    m.currentOp.onPending m.pc m.stack.frames = some m.cycle.stack.frames := by
  by_cases hcall : m.currentOp = .call
  · rw [hcall, Op.onPending, if_pos (length_frames_lt_of_call hm hcall),
      frames_cycle_call hm hcall]
  by_cases hret : m.currentOp = .ret
  · obtain ⟨a, hframes, -⟩ := frames_cycle_ret hm hret
    have hne : m.cycle.stack.frames ++ [a] ≠ [] :=
      List.append_ne_nil_of_right_ne_nil _ (List.cons_ne_nil a [])
    rw [hret, Op.onPending, hframes, if_neg hne, List.dropLast_concat]
  · rw [stack_cycle hcall hret]
    unfold Op.onPending
    split
    · exact absurd ‹_› hcall
    · exact absurd ‹_› hret
    · rfl

/-! ## Operations -/

/-- The pending calls after the cycles that begin at the listed machines. -/
def pendingAfterCycles (calls : List Word) (ms : List Machine) : Option (List Word) :=
  ms.foldlM (fun calls x => x.currentOp.onPending x.pc calls) calls

/-- The pending calls after one operation. A reset forgets them; apart from that, only the cycles of
an operation matter. -/
def pendingAfterOperation (m : Machine) (calls : List Word) : Operation → Option (List Word)
  | .reset => some []
  | op => pendingAfterCycles calls (watchOperation note m [] op)

/-- The pending calls after operations one after the other. -/
def pendingAfter (fs : Files) : Machine → List Word → List Operation → Option (List Word)
  | _, calls, [] => some calls
  | m, calls, op :: ops => do
    let calls ← pendingAfterOperation m calls op
    pendingAfter fs (m.apply fs op).2 calls ops

theorem pendingAfterCycles_of_leads {calls calls' : List Word} {ms : List Machine}
    (h : Leads (fun x => x.stack.frames) calls ms calls') :
    pendingAfterCycles calls ms = some calls' := by
  induction ms generalizing calls with
  | nil => exact congrArg some h
  | cons x xs ih =>
    obtain ⟨rfl, hx, hxs⟩ := h
    rw [pendingAfterCycles, List.foldlM_cons, onPending_frames hx]
    exact ih hxs

/-- Apart from a reset, a host leaves the stack alone. -/
theorem stack_apply_of_host (fs : Files) (m : Machine) {op : Operation}
    (hop : op.executes = false) (hreset : op ≠ .reset) :
    (m.apply fs op).2.stack = m.stack := by
  obtain ⟨memory, keypad, settings, hm, -⟩ := apply_of_host fs m hop hreset
  rw [hm]

theorem pendingAfterOperation_frames (fs : Files) (m : Machine) (op : Operation) :
    pendingAfterOperation m m.stack.frames op = some (m.apply fs op).2.stack.frames := by
  by_cases hreset : op = .reset
  · rw [hreset]
    rfl
  · have hhost : ∀ op' ∈ [op], op'.executes = false → ∀ x : Machine,
        (x.apply fs op').2.stack.frames = x.stack.frames := by
      intro op' hmem hop x
      obtain rfl : op' = op := List.mem_singleton.mp hmem
      rw [stack_apply_of_host fs x hop hreset]
    have hleads := leads_history (f := fun x => x.stack.frames) (fun _ => rfl) fs hhost m
    have hpending := pendingAfterCycles_of_leads hleads
    cases op with
    | reset => exact absurd rfl hreset
    | _ => exact hpending

/-- The saved addresses are the pending calls, whatever the operations. -/
theorem pendingAfter_frames (fs : Files) (m : Machine) (ops : List Operation) :
    pendingAfter fs m m.stack.frames ops = some (m.applyAll fs ops).stack.frames := by
  induction ops generalizing m with
  | nil => rfl
  | cons op ops ih =>
    rw [pendingAfter, pendingAfterOperation_frames fs m op]
    exact ih (m.apply fs op).2

/-- The saved addresses are a list of at most sixteen pending calls, to which a call adds its address
at the end, from which a return takes the last one to go one step past it, and which nothing but a
reset changes besides. -/
structure TreatsStackAsCalls (fs : Files) (m : Machine) : Prop where
  bounded : m.stack.frames.length ≤ 16
  call (hop : m.currentOp = .call) (hroom : m.stack.frames.length < 16) :
    m.apply fs .cycle = (.ok (.ran .call), m.cycle) ∧
      m.cycle.stack.frames = m.stack.frames ++ [m.pc]
  full (hop : m.currentOp = .call) (hfull : m.stack.frames.length = 16) :
    m.apply fs .cycle = (.error (.fault (.stackOverflow m.pc)), m)
  ret (hop : m.currentOp = .ret) {calls : List Word} {a : Word}
    (hcalls : m.stack.frames = calls ++ [a]) :
    m.apply fs .cycle = (.ok (.ran .ret), m.cycle) ∧ m.cycle.stack.frames = calls ∧
      m.cycle.pc.toNat = (a.toNat + 2) % 0x10000
  empty (hop : m.currentOp = .ret) (hempty : m.stack.frames = []) :
    m.apply fs .cycle = (.error (.fault (.stackUnderflow m.pc)), m)
  other (hcall : m.currentOp ≠ .call) (hret : m.currentOp ≠ .ret) :
    (m.apply fs .cycle).2.stack.frames = m.stack.frames
  timerStep : m.timerStep.stack.frames = m.stack.frames
  host {op : Operation} (hop : op.executes = false) (hreset : op ≠ .reset) :
    (m.apply fs op).2.stack.frames = m.stack.frames
  reset : (m.apply fs .reset).2.stack.frames = []
  /-- Whatever operation overflows the stack has come to a call that finds it full. -/
  overflow {op : Operation} {a : Word}
    (h : (m.apply fs op).1 = .error (.fault (.stackOverflow a))) :
    (m.apply fs op).2.currentOp = .call ∧ (m.apply fs op).2.stack.frames.length = 16 ∧
      a = (m.apply fs op).2.pc
  /-- Whatever operation underflows the stack has come to a return that finds it empty. -/
  underflow {op : Operation} {a : Word}
    (h : (m.apply fs op).1 = .error (.fault (.stackUnderflow a))) :
    (m.apply fs op).2.currentOp = .ret ∧ (m.apply fs op).2.stack.frames = [] ∧
      a = (m.apply fs op).2.pc

theorem treatsStackAsCalls (fs : Files) (m : Machine) : TreatsStackAsCalls fs m where
  bounded := m.stack.length_frames_le
  call := by
    intro hop hroom
    rw [CallStack.length_frames] at hroom
    have hm : m.fault? = none := by
      rw [fault?_eq_none_iff, hop]
      exact ⟨nofun, fun h => Nat.ne_of_lt hroom h.2, nofun⟩
    rw [← hop]
    exact ⟨apply_cycle_of_none fs hm, frames_cycle_call hm hop⟩
  full := by
    intro hop hfull
    rw [CallStack.length_frames] at hfull
    exact apply_cycle_of_fault fs (fault?_eq_stackOverflow_iff.mpr ⟨hop, hfull, rfl⟩)
  ret := by
    intro hop calls a hcalls
    have hsome : m.stack.depth.val ≠ 0 := by
      rw [← CallStack.length_frames, hcalls, List.length_append]
      exact Nat.succ_ne_zero _
    have hm : m.fault? = none := by
      rw [fault?_eq_none_iff, hop]
      exact ⟨nofun, nofun, fun h => hsome h.2⟩
    obtain ⟨b, hframes, hpc⟩ := frames_cycle_ret hm hop
    obtain ⟨hrest, hb⟩ := List.append_inj' (hcalls.symm.trans hframes) rfl
    obtain rfl : a = b := List.head_eq_of_cons_eq hb
    rw [← hop]
    refine ⟨apply_cycle_of_none fs hm, hrest.symm, ?_⟩
    rw [hpc, UInt16.toNat_add]
    rfl
  empty := by
    intro hop hempty
    rw [CallStack.frames_eq_nil_iff] at hempty
    exact apply_cycle_of_fault fs (fault?_eq_stackUnderflow_iff.mpr ⟨hop, hempty, rfl⟩)
  other := by
    intro hcall hret
    cases hm : m.fault? with
    | some f => rw [apply_cycle_of_fault fs hm]
    | none => rw [apply_cycle_of_none fs hm, stack_cycle hcall hret]
  timerStep := rfl
  host := by
    intro op hop hreset
    rw [stack_apply_of_host fs m hop hreset]
  reset := rfl
  overflow := by
    intro op a h
    rw [CallStack.length_frames]
    exact fault?_eq_stackOverflow_iff.mp (fault?_of_apply fs h)
  underflow := by
    intro op a h
    rw [CallStack.frames_eq_nil_iff]
    exact fault?_eq_stackUnderflow_iff.mp (fault?_of_apply fs h)

/-! ## Slots that are not in use -/

/-- Is the part a slot that is not in use? -/
def DeadSlot (m : Machine) : Part → Prop
  | .slot k => m.stack.depth.val ≤ k.val
  | _ => False

theorem DeadSlot.isPeripheral {q : Part} (h : m.DeadSlot q) : q.IsPeripheral := by
  cases q with
  | slot k => trivial
  | _ => exact h.elim

/-- Two machines that differ at most in slots that are not in use. -/
abbrev DifferAbove (m m' : Machine) : Prop := EqualBut m.DeadSlot m m'

theorem DifferAbove.frames_eq (h : DifferAbove m m') : m'.stack.frames = m.stack.frames := by
  have hdepth : m.stack.depth = m'.stack.depth := h .depth id
  refine (CallStack.frames_eq_of_slots hdepth ?_).symm
  intro k hk
  exact h (.slot k) (Nat.not_le.mpr hk)

/-- The machine with another stack. -/
def withStack (m : Machine) (stack : CallStack) : Machine := { m with stack }

theorem DifferAbove.eq_withStack (h : DifferAbove m m') : m' = m.withStack m'.stack := by
  have hm' : m' = m.withPeriphery m'.periphery := h.eq_withPeriphery fun _ => DeadSlot.isPeripheral
  have hdelay : m'.delay = m.delay := (h .delay id).symm
  have hsound : m'.sound = m.sound := (h .sound id).symm
  have hdisplay : m'.display = m.display := (h .display id).symm
  have hkeypad : m'.keypad = m.keypad := (h .keypad id).symm
  rw [withPeriphery, periphery, hdelay, hsound, hdisplay, hkeypad] at hm'
  exact hm'

section

variable (m) {s t : CallStack} (h : s.frames = t.frames)
include h

theorem differAbove_withStack : DifferAbove (m.withStack s) (m.withStack t) := by
  intro q hq
  cases q with
  | slot k =>
    have hk : k.val < s.depth.val := Nat.not_le.mp hq
    exact CallStack.slots_eq_of_frames_eq h hk k.isLt
  | depth => exact CallStack.depth_eq_of_frames_eq h
  | _ => rfl

theorem differAbove_enter (target : Word) :
    DifferAbove ((m.withStack s).enter target) ((m.withStack t).enter target) := by
  have hpush := CallStack.push?_of_frames_eq h m.pc
  simp only [enter, withStack]
  generalize s.push? m.pc = s' at hpush
  generalize t.push? m.pc = t' at hpush
  cases hpush with
  | none => exact differAbove_withStack m h
  | some hframes => exact differAbove_withStack { m with pc := target } hframes

theorem differAbove_leave : DifferAbove (m.withStack s).leave (m.withStack t).leave := by
  have hpop := CallStack.pop?_of_frames_eq h
  simp only [leave, withStack]
  generalize s.pop? = s' at hpop
  generalize t.pop? = t' at hpop
  cases hpop with
  | none => exact differAbove_withStack m h
  | @some p q hsame =>
    obtain ⟨a, s'⟩ := p
    obtain ⟨b, t'⟩ := q
    obtain ⟨rfl, hframes⟩ := hsame
    exact differAbove_withStack { m with pc := a } hframes

end

namespace DifferAbove

theorem finish (h : DifferAbove m m') (d : Word) : DifferAbove (m.finish d) (m'.finish d) := by
  intro q hq
  have hsame := h q hq
  cases q with
  | counter => exact congrArg (· + d) hsame
  | cycles => exact congrArg (· + 1) hsame
  | _ => exact hsame

/-- Calls and returns look at the saved addresses alone, and all other instructions leave the stack
as it is. -/
theorem cycle (h : DifferAbove m m') : DifferAbove m.cycle m'.cycle := by
  have hframes : m.stack.frames = m'.stack.frames := h.frames_eq.symm
  have hm' : m' = m.withStack m'.stack := h.eq_withStack
  by_cases hcall : m.currentOp = .call
  · have hcycle (s : CallStack) :
        (m.withStack s).cycle = ((m.withStack s).enter m.fetch.nnn).finish 0 := by
      have hop : decode (m.withStack s).fetch = .call := hcall
      simp only [Machine.cycle, hop, effect, advance]
      rfl
    rw [hm', hcycle m'.stack]
    show DifferAbove (m.withStack m.stack).cycle _
    rw [hcycle m.stack]
    exact (differAbove_enter m hframes m.fetch.nnn).finish 0
  by_cases hret : m.currentOp = .ret
  · have hcycle (s : CallStack) : (m.withStack s).cycle = (m.withStack s).leave.finish 2 := by
      have hop : decode (m.withStack s).fetch = .ret := hret
      simp only [Machine.cycle, hop, effect, advance, step]
    rw [hm', hcycle m'.stack]
    show DifferAbove (m.withStack m.stack).cycle _
    rw [hcycle m.stack]
    exact (differAbove_leave m hframes).finish 2
  · have hprovides : m.Provides m.currentOp m'.periphery :=
      { stack := fun hop => absurd hop (not_or.mpr ⟨hcall, hret⟩)
        delay := fun _ => (h .delay id).symm
        display := fun _ => (h .display id).symm
        keypad := fun _ => (h .keypad id).symm }
    have hdead : m.cycle.DeadSlot = m.DeadSlot := by
      funext q
      cases q with
      | slot k => exact congrArg (·.depth.val ≤ k.val) (stack_cycle hcall hret)
      | _ => rfl
    have hcycle := EqualBut.cycle h (fun _ => DeadSlot.isPeripheral) hprovides
    rwa [← hdead] at hcycle

theorem withHostParts (h : DifferAbove m m') (source : Machine) :
    DifferAbove (m.withHostParts source) (m'.withHostParts source) := by
  intro q hq
  have hsame : Same q m m' := h q hq
  cases q with
  | cell | keypad | settings => rfl
  | _ => exact hsame

/-- What a host does but running the program does not tell the two apart. -/
theorem apply_of_host (h : DifferAbove m m') (fs : Files) {op : Operation}
    (hop : op.executes = false) :
    (m.apply fs op).1 = (m'.apply fs op).1 ∧
      DifferAbove (m.apply fs op).2 (m'.apply fs op).2 := by
  by_cases hreset : op = .reset
  · rw [hreset, h.eq_withStack]
    exact ⟨rfl, fun q _ => .refl q m.reset⟩
  · have hm' : m'.withHostParts m = m' := by
      rw [h.eq_withStack]
      rfl
    have happly := apply_withHostParts fs m m hop hreset
    have happly' := apply_withHostParts fs m' m hop hreset
    rw [hm'] at happly'
    rw [happly']
    refine ⟨rfl, ?_⟩
    show DifferAbove ((m.withHostParts m).apply fs op).2 _
    rw [happly]
    exact h.withHostParts (m.apply fs op).2

end DifferAbove

theorem lockstep_differAbove : Lockstep [] Eq DifferAbove where
  fetch_eq h := h.fetch_eq fun _ => DeadSlot.isPeripheral
  fault? := by
    intro m m' h
    refine relFault_of_eq ?_
    rw [h.eq_withPeriphery fun _ => DeadSlot.isPeripheral]
    exact fault?_withPeriphery (h .depth id).symm
  perTick_eq := by
    intro m m' h
    rw [h.eq_withStack]
    rfl
  cycle h _ _ := h.cycle
  timerStep := by
    intro m m' h
    rw [h.eq_withStack]
    exact differAbove_withStack m.timerStep h.frames_eq.symm

/-- What is in the slots that are not in use does not show in a report. -/
theorem DifferAbove.report_eq (h : DifferAbove m m') : m'.report = m.report := by
  have hdepth : m'.stack.depth = m.stack.depth := (h .depth id).symm
  have hframes : m'.framesText = m.framesText := by
    rw [framesText, framesText, h.frames_eq]
  rw [report, report, hframes, hdepth, h.eq_withStack]
  rfl

/-- The slots and their number stand for a list of pending calls. Every machine treats them as such,
one cycle or operation at a time, and after any operations they stand for what `pendingAfter` makes of
the list. What is left in slots that are not in use changes neither the answers nor the instructions
nor the report, whatever the operations, and neither does what is left in them afterwards. -/
theorem stack_is_pendingCalls (fs : Files) (m : Machine) (ops : List Operation) :
    (∀ x, TreatsStackAsCalls fs x) ∧
    pendingAfter fs m m.stack.frames ops = some (m.applyAll fs ops).stack.frames ∧
    ∀ m', DifferAbove m m' →
      transcript fs m' ops = transcript fs m ops ∧
      (m'.applyAll fs ops).report = (m.applyAll fs ops).report ∧
      DifferAbove (m.applyAll fs ops) (m'.applyAll fs ops) := by
  refine ⟨treatsStackAsCalls fs, pendingAfter_frames fs m ops, ?_⟩
  intro m' h
  have hhost : ∀ op ∈ ops, op.executes = false → ∀ x x', DifferAbove x x' →
      (x.apply fs op).1 = (x'.apply fs op).1 ∧
        DifferAbove (x.apply fs op).2 (x'.apply fs op).2 :=
    fun op _ hop x x' hx => hx.apply_of_host fs hop
  obtain ⟨htranscript, -, hend⟩ :=
    lockstep_differAbove.applyAll_of_host h fs hhost fun _ _ => List.not_mem_nil
  exact ⟨htranscript.symm, hend.report_eq, hend⟩

/-- A program that calls itself, seventeen instructions in a tick. -/
def recursion : Machine :=
  { new { cycles := 17 } (.tape (fun _ => 0) 0) with
    memory := Memory.zero.writeAll 0x200 [0x22, 0x00] }

/-- The seventeenth call overflows the stack, with whatever the slots hold at first. -/
theorem stack_is_pendingCalls_recursion :
    let fs : Files := ⟨fun _ => .missing, fun _ => none⟩
    let stale : Machine := recursion.withStack ⟨Vector.replicate 16 0x0ABC, 0⟩
    transcript fs stale [.tick] =
      [(.error (.fault (.stackOverflow 0x200)), List.replicate 16 .call)] ∧
    (stale.applyAll fs [.tick]).report = (recursion.applyAll fs [.tick]).report := by
  intro fs stale
  have hstale : DifferAbove recursion stale :=
    differAbove_withStack recursion (s := .empty) (t := ⟨Vector.replicate 16 0x0ABC, 0⟩) rfl
  have htranscript : transcript fs recursion [.tick] =
      [(.error (.fault (.stackOverflow 0x200)), List.replicate 16 .call)] := by
    decide +kernel
  obtain ⟨-, -, hdead⟩ := stack_is_pendingCalls fs recursion [.tick]
  obtain ⟨hsame, hreport, -⟩ := hdead stale hstale
  exact ⟨hsame.trans htranscript, hreport⟩

end Machine

end ChipEight
