import ChipEight.Proofs.Footprint
import ChipEight.Proofs.Invariant

/-!
# Histories

The history of a sequence of operations is the list of the machines before each cycle that was
carried out, in the order of the cycles: inside a tick or a run just as one by one. It is what a
watcher sees who passes over the faults.

Between two cycles of a history there is nothing but timer steps and what the host does. What all of
them keep, of a machine and of its history so far, holds all along (`KeptNoted.history`), and a view
of the machine that timer steps and the host leave alone is handed on from cycle to cycle
(`leads_history`).
-/

namespace ChipEight

namespace Machine

section

variable {σ : Type} (watch : Machine → σ → σ)

/-- What a watcher sees of one operation. -/
def watchOperation (m : Machine) (s : σ) : Operation → σ
  | .cycle => (watchCycles watch 1 m s).2
  | .tick => (watchTick watch m s).2
  | .run n => (watchRun watch n m s).2
  | _ => s

/-- What a watcher sees of operations one after the other. -/
def watchAll (fs : Files) : Machine → σ → List Operation → σ
  | _, s, [] => s
  | m, s, op :: ops => watchAll fs (m.apply fs op).2 (watchOperation watch m s op) ops

end

/-- Notes the machine down, unless its cycle cannot be carried out. -/
def note (m : Machine) (ms : List Machine) : List Machine :=
  match m.fault? with
  | none => ms ++ [m]
  | some _ => ms

/-- The machines before each cycle that the operations carry out. -/
def history (fs : Files) (m : Machine) (ops : List Operation) : List Machine :=
  watchAll note fs m [] ops

/-- What operations one after the other look like from outside: the answer to each, and the
instructions that it carried out. -/
def transcript (fs : Files) : Machine → List Operation → List (Except Refusal Reply × List Op)
  | _, [] => []
  | m, op :: ops =>
    ((m.apply fs op).1, (watchOperation note m [] op).map currentOp) ::
      transcript fs (m.apply fs op).2 ops

/-! ## Notes are added at the end -/

theorem snd_watchCycles_note (n : Nat) (m : Machine) (ms : List Machine) :
    (watchCycles note n m ms).2 = ms ++ (watchCycles note n m []).2 := by
  induction n generalizing m ms with
  | zero => exact (List.append_nil ms).symm
  | succ n ih =>
    rw [watchCycles, watchCycles, note, note]
    cases m.fault? with
    | some fault => exact (List.append_nil ms).symm
    | none =>
      show (watchCycles note n m.cycle (ms ++ [m])).2 = ms ++ (watchCycles note n m.cycle [m]).2
      rw [ih m.cycle (ms ++ [m]), ih m.cycle [m], List.append_assoc]

/-- A timer step is not noted. -/
theorem snd_watchTick_note (m : Machine) (ms : List Machine) :
    (watchTick note m ms).2 = (watchCycles note m.settings.cycles m ms).2 := by
  rw [watchTick]
  rcases watchCycles note m.settings.cycles m ms with ⟨⟨m', _ | fault⟩, ms'⟩ <;> rfl

theorem snd_watchTick_note_append (m : Machine) (ms : List Machine) :
    (watchTick note m ms).2 = ms ++ (watchTick note m []).2 := by
  rw [snd_watchTick_note, snd_watchTick_note, snd_watchCycles_note]

/-- A run goes on after its first tick, unless a fault ended that. -/
theorem snd_watchRun_note_succ (n : Nat) (m : Machine) (ms : List Machine) :
    (watchRun note (n + 1) m ms).2 =
      match m.tick.fault? with
      | none => (watchRun note n m.tick.machine (watchTick note m ms).2).2
      | some _ => (watchTick note m ms).2 := by
  rw [watchRun, ← watchTick_fst note m ms]
  rcases watchTick note m ms with ⟨⟨m', _ | fault⟩, ms'⟩ <;> rfl

theorem snd_watchRun_note (n : Nat) (m : Machine) (ms : List Machine) :
    (watchRun note n m ms).2 = ms ++ (watchRun note n m []).2 := by
  induction n generalizing m ms with
  | zero => exact (List.append_nil ms).symm
  | succ n ih =>
    rw [snd_watchRun_note_succ, snd_watchRun_note_succ, snd_watchTick_note_append m ms]
    cases m.tick.fault? with
    | none =>
      show (watchRun note n m.tick.machine (ms ++ (watchTick note m []).2)).2 =
        ms ++ (watchRun note n m.tick.machine (watchTick note m []).2).2
      rw [ih _ (ms ++ (watchTick note m []).2), ih _ (watchTick note m []).2, List.append_assoc]
    | some fault => rfl

/-- What does not run the program is not watched. -/
theorem watchOperation_of_host {σ : Type} {watch : Machine → σ → σ} (m : Machine) {s : σ}
    {op : Operation} (hop : op.executes = false) : watchOperation watch m s op = s := by
  cases op with
  | cycle | tick | run => cases hop
  | _ => rfl

theorem watchAll_note (fs : Files) (m : Machine) (ms : List Machine) (ops : List Operation) :
    watchAll note fs m ms ops = ms ++ history fs m ops := by
  rw [history]
  induction ops generalizing m ms with
  | nil => exact (List.append_nil ms).symm
  | cons op ops ih =>
    have hop : watchOperation note m ms op = ms ++ watchOperation note m [] op := by
      cases op with
      | cycle => exact snd_watchCycles_note 1 m ms
      | tick => exact snd_watchTick_note_append m ms
      | run n => exact snd_watchRun_note n m ms
      | _ => exact (List.append_nil ms).symm
    rw [watchAll, watchAll, ih _ (watchOperation note m ms op), ih _ (watchOperation note m [] op),
      hop, List.append_assoc]

theorem history_cons (fs : Files) (m : Machine) (op : Operation) (ops : List Operation) :
    history fs m (op :: ops) = watchOperation note m [] op ++ history fs (m.apply fs op).2 ops :=
  watchAll_note fs (m.apply fs op).2 (watchOperation note m [] op) ops

/-- A history goes on where the first operation ends. -/
theorem history_cons_eq_append (fs : Files) (m : Machine) (op : Operation) (ops : List Operation) :
    history fs m (op :: ops) = history fs m [op] ++ history fs (m.apply fs op).2 ops := by
  have hsingle : history fs m [op] = watchOperation note m [] op := by
    rw [history_cons]
    exact List.append_nil _
  rw [history_cons, hsingle]

theorem history_cycle_of_none (fs : Files) {m : Machine} (h : m.fault? = none) :
    history fs m [.cycle] = [m] := by
  simp only [history, watchAll, watchOperation, watchCycles, note, h, List.nil_append]

/-! ## What holds all along -/

/-- A property of a machine and the notes so far. Every cycle that can be carried out keeps it, with
the machine before that cycle as the next note, and so does the timer step at the end of a tick. -/
structure KeptNoted (P : Machine → List Machine → Prop) : Prop where
  cycle : ∀ m ms, P m ms → m.fault? = none → P m.cycle (ms ++ [m])
  timerStep : ∀ m ms, P m ms → P m.timerStep ms

/-- Every operation is one that `p` admits, on the machine on which it is made. -/
def Admits (fs : Files) (p : Machine → Operation → Prop) : Machine → List Operation → Prop
  | _, [] => True
  | m, op :: ops => p m op ∧ Admits fs p (m.apply fs op).2 ops

theorem admits_of_forall (fs : Files) {p : Machine → Operation → Prop} {ops : List Operation}
    (h : ∀ op ∈ ops, ∀ m, p m op) (m : Machine) : Admits fs p m ops := by
  induction ops generalizing m with
  | nil => trivial
  | cons op ops ih =>
    refine ⟨h op List.mem_cons_self m, ih ?_ _⟩
    intro op' hmem
    exact h op' (List.mem_cons_of_mem op hmem)

namespace KeptNoted

variable {P : Machine → List Machine → Prop} (hP : KeptNoted P)
include hP

theorem watchCycles (n : Nat) {m : Machine} {ms : List Machine} (h : P m ms) :
    P (runCycles n m).machine (Machine.watchCycles note n m ms).2 := by
  induction n generalizing m ms with
  | zero => exact h
  | succ n ih =>
    rw [Machine.watchCycles, runCycles, note]
    cases hm : m.fault? with
    | some fault => exact h
    | none => exact ih (hP.cycle m ms h hm)

theorem watchTick {m : Machine} {ms : List Machine} (h : P m ms) :
    P m.tick.machine (Machine.watchTick note m ms).2 := by
  have hcycles := hP.watchCycles m.settings.cycles h
  rw [← watchCycles_fst note m.settings.cycles m ms] at hcycles
  rw [← watchTick_fst note m ms, Machine.watchTick]
  generalize Machine.watchCycles note m.settings.cycles m ms = r at hcycles
  obtain ⟨⟨m', _ | fault⟩, ms'⟩ := r
  · exact hP.timerStep m' ms' hcycles
  · exact hcycles

theorem watchRun (n : Nat) {m : Machine} {ms : List Machine} (h : P m ms) :
    P (run n m).machine (Machine.watchRun note n m ms).2 := by
  induction n generalizing m ms with
  | zero => exact h
  | succ n ih =>
    have htick := hP.watchTick h
    rw [← watchTick_fst note m ms] at htick
    rw [Machine.watchRun, run, ← watchTick_fst note m ms]
    generalize Machine.watchTick note m ms = r at htick
    obtain ⟨⟨m', _ | fault⟩, ms'⟩ := r
    · exact ih htick
    · exact htick

theorem watchOperation (fs : Files) {m : Machine} {ms : List Machine} (h : P m ms)
    {op : Operation} (hop : op.executes) :
    P (m.apply fs op).2 (Machine.watchOperation note m ms op) := by
  cases op with
  | cycle =>
    rw [apply, Outcome.snd_reply]
    exact hP.watchCycles 1 h
  | tick =>
    rw [apply, Outcome.snd_reply]
    exact hP.watchTick h
  | run n =>
    rw [apply, Outcome.snd_reply]
    exact hP.watchRun n h
  | _ => cases hop

/-- The property holds at the end of operations if what the host does in between keeps it, too. -/
theorem watchAll (fs : Files) {p : Machine → Operation → Prop}
    (hhost : ∀ m ms op, op.executes = false → p m op → P m ms → P (m.apply fs op).2 ms)
    {m : Machine} {ms : List Machine} {ops : List Operation} (hops : Admits fs p m ops)
    (h : P m ms) : P (m.applyAll fs ops) (Machine.watchAll note fs m ms ops) := by
  induction ops generalizing m ms with
  | nil => exact h
  | cons op ops ih =>
    obtain ⟨hop, hrest⟩ := hops
    rw [Machine.watchAll, applyAll, List.foldl_cons]
    refine ih hrest ?_
    cases hexec : op.executes with
    | true => exact hP.watchOperation fs h hexec
    | false =>
      rw [watchOperation_of_host m hexec]
      exact hhost m ms op hexec hop h

/-- A property that is kept holds of every noted machine and the notes before it, too. -/
theorem throughout : KeptNoted fun m ms =>
    P m ms ∧ ∀ before x after, ms = before ++ x :: after → P x before where
  cycle := by
    rintro m ms ⟨h, hnoted⟩ hfault
    refine ⟨hP.cycle m ms h hfault, ?_⟩
    intro before x after hsplit
    rcases List.eq_nil_or_concat after with rfl | ⟨after, y, rfl⟩
    · obtain ⟨rfl, hx⟩ := List.append_inj' hsplit rfl
      obtain rfl : m = x := List.head_eq_of_cons_eq hx
      exact h
    · rw [List.concat_eq_append, ← List.cons_append, ← List.append_assoc] at hsplit
      obtain ⟨rfl, -⟩ := List.append_inj' hsplit rfl
      exact hnoted before x after rfl
  timerStep := by
    rintro m ms ⟨h, hnoted⟩
    exact ⟨hP.timerStep m ms h, hnoted⟩

/-- What holds of a machine without a past holds along its history: of every machine in it, with the
part of the history before that machine, and of the machine at its end. -/
theorem history (fs : Files) {p : Machine → Operation → Prop}
    (hhost : ∀ m ms op, op.executes = false → p m op → P m ms → P (m.apply fs op).2 ms)
    {m : Machine} {ops : List Operation} (hops : Admits fs p m ops) (h : P m []) :
    P (m.applyAll fs ops) (Machine.history fs m ops) ∧
      ∀ before x after, Machine.history fs m ops = before ++ x :: after → P x before := by
  refine hP.throughout.watchAll fs ?_ hops ⟨h, ?_⟩
  · rintro m ms op hexec hop ⟨hm, hnoted⟩
    exact ⟨hhost m ms op hexec hop hm, hnoted⟩
  · intro before x after hsplit
    cases before <;> cases hsplit

end KeptNoted

/-! ## From cycle to cycle -/

section

variable {α : Type} (f : Machine → α)

/-- The cycles that begin at the listed machines lead from one value of a view to another: the
first begins at the one value, each of the others where the one before it ended, and the last one
ends at the other value. -/
def Leads (a : α) : List Machine → α → Prop
  | [], b => a = b
  | m :: ms, b => f m = a ∧ m.fault? = none ∧ Leads (f m.cycle) ms b

variable {f}

theorem Leads.snoc {a : α} {ms : List Machine} {m : Machine} (h : Leads f a ms (f m))
    (hm : m.fault? = none) : Leads f a (ms ++ [m]) (f m.cycle) := by
  induction ms generalizing a with
  | nil => exact ⟨h.symm, hm, rfl⟩
  | cons x xs ih =>
    obtain ⟨hx, hfault, hxs⟩ := h
    exact ⟨hx, hfault, ih hxs⟩

/-- From any of its machines on, a list of cycles still leads to the end. -/
theorem Leads.tail {a b : α} {before after : List Machine} {m : Machine}
    (h : Leads f a (before ++ m :: after) b) : Leads f (f m) (m :: after) b := by
  induction before generalizing a with
  | nil =>
    obtain ⟨-, hfault, hafter⟩ := h
    exact ⟨rfl, hfault, hafter⟩
  | cons x xs ih => exact ih h.2.2

/-- A view that timer steps and the host leave alone is handed on from cycle to cycle. -/
theorem leads_history (htimer : ∀ m, f m.timerStep = f m) (fs : Files) {ops : List Operation}
    (hhost : ∀ op ∈ ops, op.executes = false → ∀ m, f (m.apply fs op).2 = f m) (m : Machine) :
    Leads f (f m) (history fs m ops) (f (m.applyAll fs ops)) := by
  have hkept : KeptNoted fun x ms => Leads f (f m) ms (f x) :=
    { cycle := fun x ms h hfault => h.snoc hfault
      timerStep := fun x ms h => by rwa [htimer] }
  have hops : Admits fs (fun x op => op.executes = false → f (x.apply fs op).2 = f x) m ops :=
    admits_of_forall fs (fun op hmem x hop => hhost op hmem hop x) m
  refine (hkept.history fs ?_ hops rfl).1
  intro x ms op hexec hop h
  rwa [hop hexec]

end

theorem Leads.length {a b : Nat} {ms : List Machine} (h : Leads cycles a ms b) :
    b = a + ms.length := by
  induction ms generalizing a with
  | nil => exact h.symm
  | cons m ms ih =>
    obtain ⟨rfl, -, hms⟩ := h
    rw [ih hms, cycles_cycle, List.length_cons]
    omega

/-- A history misses no cycle: it is as long as the count of cycles says. -/
theorem length_history (fs : Files) {ops : List Operation} (hreset : ∀ op ∈ ops, op ≠ .reset)
    (m : Machine) : (m.applyAll fs ops).cycles = m.cycles + (history fs m ops).length := by
  refine Leads.length (leads_history (fun _ => rfl) fs (fun op hmem hop x => ?_) m)
  obtain ⟨memory, keypad, settings, hx, -⟩ := apply_of_host fs x hop (hreset op hmem)
  rw [hx]

/-- Every operation but a reset counts the cycles of its history. -/
theorem cycles_apply (fs : Files) (m : Machine) {op : Operation} (hreset : op ≠ .reset) :
    (m.apply fs op).2.cycles = m.cycles + (history fs m [op]).length := by
  have hops : ∀ op' ∈ [op], op' ≠ .reset := by
    intro op' hmem
    rwa [List.mem_singleton.mp hmem]
  exact length_history fs hops m

end Machine

end ChipEight
