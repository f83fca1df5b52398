import ChipEight.Proofs.History
import Mathlib.Data.List.Forall2

/-!
# Runs in lockstep

Two machines may differ in something that only a few instructions look at. As long as the first one
carries out none of these, both carry out the same instructions, and they differ in no more than
before. `Lockstep` says what has to be shown of single cycles and timer steps for that;
`Lockstep.applyAll_of_host` is what follows for everything that the two machines can be made to do.
-/

namespace ChipEight.Machine

/-- Under the relation `R`, two machines are about to carry out the same instruction and have faults
that `F` relates. Timer steps keep them related, and so do cycles of all instructions but `reads`. -/
structure Lockstep (reads : List Op) (F : Fault → Fault → Prop) (R : Machine → Machine → Prop) :
    Prop where
  fetch_eq {m m' : Machine} : R m m' → m.fetch = m'.fetch
  fault? {m m' : Machine} : R m m' → Option.Rel F m.fault? m'.fault?
  perTick_eq {m m' : Machine} : R m m' → m.settings.cycles = m'.settings.cycles
  cycle {m m' : Machine} :
    R m m' → m.fault? = none → m.currentOp ∉ reads → R m.cycle m'.cycle
  timerStep {m m' : Machine} : R m m' → R m.timerStep m'.timerStep

/-- The machines before two cycles are related, and so are those after them. -/
def CyclesRelated (R : Machine → Machine → Prop) (m m' : Machine) : Prop :=
  R m m' ∧ R m.cycle m'.cycle

/-- Watched runs that ended alike and went through related machines. -/
structure Together (F : Fault → Fault → Prop) (R : Machine → Machine → Prop)
    (r r' : Outcome × List Machine) : Prop where
  machine : R r.1.machine r'.1.machine
  fault? : Option.Rel F r.1.fault? r'.1.fault?
  noted : List.Forall₂ (CyclesRelated R) r.2 r'.2

/-- The same fault, or none on either machine. -/
theorem relFault_of_eq {m m' : Machine} (h : m'.fault? = m.fault?) :
    Option.Rel Eq m.fault? m'.fault? := by
  rw [h]
  cases m.fault? with
  | some f => exact .some rfl
  | none => exact .none

namespace Lockstep

variable {reads : List Op} {F : Fault → Fault → Prop} {R : Machine → Machine → Prop}
  (hR : Lockstep reads F R) {m m' : Machine} {ms ms' : List Machine}
include hR

theorem currentOp_eq (h : R m m') : m.currentOp = m'.currentOp := by
  rw [currentOp, hR.fetch_eq h, currentOp]

theorem map_currentOp_eq (hms : List.Forall₂ (CyclesRelated R) ms ms') :
    ms.map currentOp = ms'.map currentOp := by
  induction hms with
  | nil => rfl
  | cons hx _ ih => rw [List.map_cons, List.map_cons, hR.currentOp_eq hx.1, ih]

/-! ## Cycles, ticks and runs -/

theorem watchCycles (h : R m m') (hms : List.Forall₂ (CyclesRelated R) ms ms') (n : Nat)
    (hreads : ∀ x ∈ (Machine.watchCycles note n m ms).2, x.currentOp ∉ reads) :
    Together F R (Machine.watchCycles note n m ms) (Machine.watchCycles note n m' ms') := by
  induction n generalizing m m' ms ms' with
  | zero => exact ⟨h, .none, hms⟩
  | succ n ih =>
    have hfault := hR.fault? h
    rw [Machine.watchCycles, note] at hreads
    rw [Machine.watchCycles, Machine.watchCycles, note, note]
    cases hm : m.fault? with
    | some f =>
      rw [hm] at hfault
      generalize m'.fault? = f' at hfault ⊢
      obtain ⟨hf⟩ := hfault
      exact ⟨h, .some hf, hms⟩
    | none =>
      rw [hm] at hfault hreads
      generalize m'.fault? = f' at hfault ⊢
      obtain ⟨⟩ := hfault
      -- The instruction carried out here is among those that are noted.
      have hop : m.currentOp ∉ reads := by
        refine hreads m ?_
        show m ∈ (Machine.watchCycles note n m.cycle (ms ++ [m])).2
        rw [snd_watchCycles_note]
        exact List.mem_append_left _ (List.mem_append_right _ (List.mem_singleton.mpr rfl))
      have hcycle : R m.cycle m'.cycle := hR.cycle h hm hop
      exact ih hcycle (List.rel_append hms (.cons ⟨h, hcycle⟩ .nil)) hreads

theorem watchTick (h : R m m') (hms : List.Forall₂ (CyclesRelated R) ms ms')
    (hreads : ∀ x ∈ (Machine.watchTick note m ms).2, x.currentOp ∉ reads) :
    Together F R (Machine.watchTick note m ms) (Machine.watchTick note m' ms') := by
  rw [snd_watchTick_note] at hreads
  have hcycles := hR.watchCycles h hms m.settings.cycles hreads
  rw [Machine.watchTick, Machine.watchTick, ← hR.perTick_eq h]
  generalize Machine.watchCycles note m.settings.cycles m ms = r at hcycles ⊢
  generalize Machine.watchCycles note m.settings.cycles m' ms' = r' at hcycles ⊢
  obtain ⟨⟨x, f⟩, xs⟩ := r
  obtain ⟨⟨x', f'⟩, xs'⟩ := r'
  obtain ⟨hx, hf, hxs⟩ := hcycles
  cases hf with
  | some hf => exact ⟨hx, .some hf, hxs⟩
  | none => exact ⟨hR.timerStep hx, .none, hxs⟩

theorem watchRun (h : R m m') (hms : List.Forall₂ (CyclesRelated R) ms ms') (n : Nat)
    (hreads : ∀ x ∈ (Machine.watchRun note n m ms).2, x.currentOp ∉ reads) :
    Together F R (Machine.watchRun note n m ms) (Machine.watchRun note n m' ms') := by
  induction n generalizing m m' ms ms' with
  | zero => exact ⟨h, .none, hms⟩
  | succ n ih =>
    have htick : Together F R (Machine.watchTick note m ms) (Machine.watchTick note m' ms') := by
      refine hR.watchTick h hms fun x hx => hreads x ?_
      rw [snd_watchRun_note_succ]
      split
      · rw [snd_watchRun_note]
        exact List.mem_append_left _ hx
      · exact hx
    rw [Machine.watchRun] at hreads
    rw [Machine.watchRun, Machine.watchRun]
    generalize Machine.watchTick note m ms = r at htick hreads ⊢
    generalize Machine.watchTick note m' ms' = r' at htick ⊢
    obtain ⟨⟨x, f⟩, xs⟩ := r
    obtain ⟨⟨x', f'⟩, xs'⟩ := r'
    obtain ⟨hx, hf, hxs⟩ := htick
    cases hf with
    | some hf => exact ⟨hx, .some hf, hxs⟩
    | none => exact ih hx hxs hreads

end Lockstep

/-! ## Operations -/

/-- Runs that ended with the same fault or none give the same answer. -/
theorem Together.reply {R : Machine → Machine → Prop} {r r' : Outcome × List Machine}
    (h : Together Eq R r r') (a : Reply) :
    (r.1.reply a).1 = (r'.1.reply a).1 ∧ R (r.1.reply a).2 (r'.1.reply a).2 := by
  obtain ⟨⟨x, f⟩, xs⟩ := r
  obtain ⟨⟨x', f'⟩, xs'⟩ := r'
  obtain ⟨hx, hf, -⟩ := h
  cases hf with
  | some hf =>
    obtain rfl := hf
    exact ⟨rfl, hx⟩
  | none => exact ⟨rfl, hx⟩

namespace Lockstep

variable {reads : List Op} {R : Machine → Machine → Prop} (hR : Lockstep reads Eq R)
  {m m' : Machine}
include hR

theorem apply (h : R m m') (fs : Files) {op : Operation} (hop : op.executes)
    (hreads : ∀ x ∈ watchOperation note m [] op, x.currentOp ∉ reads) :
    (m.apply fs op).1 = (m'.apply fs op).1 ∧ R (m.apply fs op).2 (m'.apply fs op).2 ∧
      List.Forall₂ (CyclesRelated R) (watchOperation note m [] op)
        (watchOperation note m' [] op) := by
  cases op with
  | cycle =>
    have hrun := hR.watchCycles h .nil 1 hreads
    obtain ⟨hanswer, hmachine⟩ := hrun.reply (.ran m.currentOp)
    rw [watchCycles_fst, watchCycles_fst] at hanswer hmachine
    rw [Machine.apply, Machine.apply, ← hR.currentOp_eq h]
    exact ⟨hanswer, hmachine, hrun.noted⟩
  | tick =>
    have hrun := hR.watchTick h .nil hreads
    obtain ⟨hanswer, hmachine⟩ := hrun.reply .done
    rw [watchTick_fst, watchTick_fst] at hanswer hmachine
    exact ⟨hanswer, hmachine, hrun.noted⟩
  | run n =>
    have hrun := hR.watchRun h .nil n hreads
    obtain ⟨hanswer, hmachine⟩ := hrun.reply .done
    rw [watchRun_fst, watchRun_fst] at hanswer hmachine
    exact ⟨hanswer, hmachine, hrun.noted⟩
  | _ => cases hop

/-- As long as the first machine carries out none of the instructions that look at the difference,
and the host does nothing that tells the two apart, both give the same answers, carry out the same
instructions and stay related. -/
theorem applyAll_of_host (h : R m m') (fs : Files) {ops : List Operation}
    (hhost : ∀ op ∈ ops, op.executes = false → ∀ x x', R x x' →
      (x.apply fs op).1 = (x'.apply fs op).1 ∧ R (x.apply fs op).2 (x'.apply fs op).2)
    (hreads : ∀ x ∈ history fs m ops, x.currentOp ∉ reads) :
    transcript fs m ops = transcript fs m' ops ∧
      List.Forall₂ (CyclesRelated R) (history fs m ops) (history fs m' ops) ∧
      R (m.applyAll fs ops) (m'.applyAll fs ops) := by
  induction ops generalizing m m' with
  | nil => exact ⟨rfl, .nil, h⟩
  | cons op ops ih =>
    rw [history_cons] at hreads
    have hop : (m.apply fs op).1 = (m'.apply fs op).1 ∧ R (m.apply fs op).2 (m'.apply fs op).2 ∧
        List.Forall₂ (CyclesRelated R) (watchOperation note m [] op)
          (watchOperation note m' [] op) := by
      cases hexec : op.executes with
      | true => exact hR.apply h fs hexec fun x hx => hreads x (List.mem_append_left _ hx)
      | false =>
        obtain ⟨hanswer, hnext⟩ := hhost op List.mem_cons_self hexec m m' h
        rw [watchOperation_of_host m hexec, watchOperation_of_host m' hexec]
        exact ⟨hanswer, hnext, .nil⟩
    obtain ⟨hanswer, hnext, hnoted⟩ := hop
    obtain ⟨htranscript, hhistory, hend⟩ := ih hnext
      (fun op' hmem => hhost op' (List.mem_cons_of_mem op hmem))
      fun x hx => hreads x (List.mem_append_right _ hx)
    refine ⟨?_, ?_, hend⟩
    · rw [transcript, transcript, hanswer, hR.map_currentOp_eq hnoted, htranscript]
    · rw [history_cons, history_cons]
      exact List.rel_append hnoted hhistory

/-- The same for operations that run the program. -/
theorem applyAll (h : R m m') (fs : Files) {ops : List Operation}
    (hops : ∀ op ∈ ops, op.executes)
    (hreads : ∀ x ∈ history fs m ops, x.currentOp ∉ reads) :
    transcript fs m ops = transcript fs m' ops ∧
      List.Forall₂ (CyclesRelated R) (history fs m ops) (history fs m' ops) ∧
      R (m.applyAll fs ops) (m'.applyAll fs ops) := by
  refine hR.applyAll_of_host h fs ?_ hreads
  intro op hmem hexec
  rw [hops op hmem] at hexec
  cases hexec

end Lockstep

end ChipEight.Machine
