import ChipEight.Proofs.Alike
import ChipEight.Proofs.Lockstep

/-!
# Only the low twelve bits of an address matter

`PC`, `I` and the saved addresses keep sixteen bits, but nothing that a host can see depends on the
upper four. Alike machines answer every operation alike and stay alike, whatever the program does
and wherever its addresses wrap around (`alike_applyAll`).
-/

namespace ChipEight

/-- Does the operation leave the settings alone? -/
def Operation.keepsSettings : Operation → Bool
  | toggle _ | assign .. => false
  | _ => true

/-- The same answer. Only the addresses that faults carry may differ, and they are addresses of the
same cell. -/
inductive AnswersAlike : Except Refusal Reply → Except Refusal Reply → Prop
  | same (r : Except Refusal Reply) : AnswersAlike r r
  | fault {f f' : Fault} (h : f.Alike f') : AnswersAlike (.error (.fault f)) (.error (.fault f'))

namespace Machine

/-- Runs that ended alike: with alike machines, and with the same fault or none. -/
structure Outcome.Alike (o o' : Outcome) : Prop where
  machine : Machine.Alike o.machine o'.machine
  fault? : Option.Rel Fault.Alike o.fault? o'.fault?

theorem Outcome.Alike.reply {o o' : Outcome} (h : o.Alike o') (r : Reply) :
    AnswersAlike (o.reply r).1 (o'.reply r).1 ∧ Machine.Alike (o.reply r).2 (o'.reply r).2 := by
  obtain ⟨m, f⟩ := o
  obtain ⟨m', f'⟩ := o'
  obtain ⟨hm, hf⟩ := h
  cases hf with
  | some hf => exact ⟨.fault hf, hm⟩
  | none => exact ⟨.same (.ok r), hm⟩

/-- Watched runs that ended alike and carried out the same instructions. -/
def WatchedAlike (r r' : Outcome × List Machine) : Prop :=
  r.1.Alike r'.1 ∧ r.2.map currentOp = r'.2.map currentOp

namespace Alike

variable {m m' : Machine}

/-! ## Runs -/

theorem settings_eq (h : Alike m m') : m.settings = m'.settings := by
  obtain ⟨-, pc, i, stack, rfl, -⟩ := h
  rfl

/-- Alike machines run in lockstep, whatever instructions they carry out. -/
theorem lockstep : Lockstep [] Fault.Alike Alike where
  fetch_eq := fetch_eq
  fault? := fault?
  perTick_eq h := congrArg Settings.cycles h.settings_eq
  cycle h _ _ := h.cycle
  timerStep := timerStep

theorem watched_of_together {r r' : Outcome × List Machine} (h : Together Fault.Alike Alike r r') :
    WatchedAlike r r' :=
  ⟨⟨h.machine, h.fault?⟩, lockstep.map_currentOp_eq h.noted⟩

theorem watchCycles (h : Alike m m') (n : Nat) :
    WatchedAlike (Machine.watchCycles note n m []) (Machine.watchCycles note n m' []) :=
  watched_of_together (lockstep.watchCycles h .nil n fun _ _ => List.not_mem_nil)

theorem watchTick (h : Alike m m') :
    WatchedAlike (Machine.watchTick note m []) (Machine.watchTick note m' []) :=
  watched_of_together (lockstep.watchTick h .nil fun _ _ => List.not_mem_nil)

theorem watchRun (h : Alike m m') (n : Nat) :
    WatchedAlike (Machine.watchRun note n m []) (Machine.watchRun note n m' []) :=
  watched_of_together (lockstep.watchRun h .nil n fun _ _ => List.not_mem_nil)

/-! ## Operations -/

theorem reset (h : Alike m m') : Alike m.reset m'.reset := by
  obtain ⟨hoff, pc, i, stack, rfl, -⟩ := h
  exact ⟨hoff, _, _, _, rfl, .refl _, .refl _, .refl _⟩

theorem load (h : Alike m m') (fs : Files) (program : List UInt8) :
    AnswersAlike (m.apply fs (.load program)).1 (m'.apply fs (.load program)).1 ∧
    Alike (m.apply fs (.load program)).2 (m'.apply fs (.load program)).2 := by
  obtain ⟨hoff, pc, i, stack, rfl, hwords⟩ := h
  rw [Machine.apply, Machine.apply, loadProgram, loadProgram]
  by_cases hsize : Layout.programCapacity < program.length
  · rw [if_pos hsize, if_pos hsize]
    exact ⟨.same _, hoff, pc, i, stack, rfl, hwords⟩
  · rw [if_neg hsize, if_neg hsize]
    exact ⟨.same _, hoff, pc, i, stack, rfl, hwords⟩

theorem apply (h : Alike m m') (fs : Files) {op : Operation} (hop : op.keepsSettings) :
    AnswersAlike (m.apply fs op).1 (m'.apply fs op).1 ∧
    Alike (m.apply fs op).2 (m'.apply fs op).2 := by
  cases op with
  | load program => exact h.load fs program
  | loadFile path =>
    rw [apply_loadFile, apply_loadFile]
    cases readProgram fs path with
    | ok program => exact h.load fs program
    | error e => exact ⟨.same _, h⟩
  | cycle =>
    rw [Machine.apply, Machine.apply, h.currentOp_eq]
    have hrun := (h.watchCycles 1).1
    rw [watchCycles_fst, watchCycles_fst] at hrun
    exact hrun.reply _
  | tick =>
    have hrun := h.watchTick.1
    rw [watchTick_fst, watchTick_fst] at hrun
    exact hrun.reply _
  | run n =>
    have hrun := (h.watchRun n).1
    rw [watchRun_fst, watchRun_fst] at hrun
    exact hrun.reply _
  | reset => exact ⟨.same _, h.reset⟩
  | press key =>
    rw [Machine.apply, Machine.apply]
    cases key.index with
    | ok k => exact ⟨.same _, h.map (·.press k) (fun _ _ _ _ => rfl) rfl⟩
    | error e => exact ⟨.same _, h⟩
  | release key =>
    rw [Machine.apply, Machine.apply]
    cases key.index with
    | ok k => exact ⟨.same _, h.map (·.release k) (fun _ _ _ _ => rfl) rfl⟩
    | error e => exact ⟨.same _, h⟩
  | toggle | assign => cases hop

theorem watchOperation (h : Alike m m') (op : Operation) :
    (Machine.watchOperation Machine.note m [] op).map currentOp =
      (Machine.watchOperation Machine.note m' [] op).map currentOp := by
  cases op with
  | cycle => exact (h.watchCycles 1).2
  | tick => exact h.watchTick.2
  | run n => exact (h.watchRun n).2
  | _ => rfl

end Alike

/-- Alike machines answer the same operations alike, carry out the same instructions, and are alike
afterwards. -/
theorem alike_applyAll (fs : Files) (m m' : Machine) (ops : List Operation)
    (hops : ∀ op ∈ ops, op.keepsSettings) (h : Alike m m') :
    List.Forall₂ (fun p q => AnswersAlike p.1 q.1 ∧ p.2 = q.2)
      (transcript fs m ops) (transcript fs m' ops) ∧
    Alike (m.applyAll fs ops) (m'.applyAll fs ops) := by
  induction ops generalizing m m' with
  | nil => exact ⟨.nil, h⟩
  | cons op ops ih =>
    obtain ⟨hanswer, hnext⟩ := h.apply fs (hops op List.mem_cons_self)
    have hrest (op' : Operation) (hmem : op' ∈ ops) := hops op' (List.mem_cons_of_mem op hmem)
    obtain ⟨htranscript, hend⟩ := ih _ _ hrest hnext
    exact ⟨.cons ⟨hanswer, h.watchOperation op⟩ htranscript, hend⟩

/-- The machine at power-on, but with high bits in `PC` and in `I`. -/
def lifted : Machine := { (default : Machine) with pc := 0xF200, i := 0x5000 }

theorem alike_applyAll_lifted :
    let fs : Files := ⟨fun _ => .missing, fun _ => none⟩
    let ops : List Operation := [.load [0x22, 0x02, 0x00, 0xEE], .run 2, .reset, .tick]
    Alike ((default : Machine).applyAll fs ops) (lifted.applyAll fs ops) := by
  intro fs ops
  have h : Alike default lifted := ⟨rfl, 0xF200, 0x5000, .empty, rfl, rfl, rfl, .refl _⟩
  exact (alike_applyAll fs default lifted ops (by simp [ops, Operation.keepsSettings]) h).2

end Machine

end ChipEight
