import ChipEight.Machine.Operation

/-!
# Properties that runs keep

A run is made of cycles and timer steps. `Kept` says that a property survives both; it then holds
of the machine that a number of cycles, a tick or a run leaves behind, whether a fault ended it
early or not. What a host can do besides is to replace the memory, the keypad or the settings, and
to reset (`apply_of_host`); `KeptByHost` asks for these as well.
-/

namespace ChipEight

/-- Does the operation run the program? -/
def Operation.executes : Operation → Bool
  | cycle | tick | run _ => true
  | _ => false

/-- Does the operation load a program? -/
def Operation.loads : Operation → Bool
  | load _ | loadFile _ => true
  | _ => false

/-- Does the operation leave it to the program to write memory and to move? A host that loads or
resets takes that into its own hands. -/
def Operation.isHandsOff : Operation → Bool
  | load _ | loadFile _ | reset => false
  | _ => true

namespace Machine

/-- A property that every cycle that can be carried out keeps, and the timer step at the end of a
tick. -/
structure Kept (P : Machine → Prop) : Prop where
  cycle : ∀ m, P m → m.fault? = none → P m.cycle
  timerStep : ∀ m, P m → P m.timerStep

namespace Kept

variable {P : Machine → Prop} (hP : Kept P)
include hP

theorem runCycles (n : Nat) (m : Machine) (h : P m) : P (runCycles n m).machine := by
  induction n generalizing m with
  | zero => exact h
  | succ n ih =>
    rw [Machine.runCycles]
    cases hf : m.fault? with
    | some fault => exact h
    | none => exact ih m.cycle (hP.cycle m h hf)

theorem tick (m : Machine) (h : P m) : P m.tick.machine := by
  have hc := hP.runCycles m.settings.cycles m h
  rw [Machine.tick]
  generalize Machine.runCycles m.settings.cycles m = o at hc
  obtain ⟨m', _ | fault⟩ := o
  · exact hP.timerStep m' hc
  · exact hc

theorem run (n : Nat) (m : Machine) (h : P m) : P (run n m).machine := by
  induction n generalizing m with
  | zero => exact h
  | succ n ih =>
    have ht := hP.tick m h
    rw [Machine.run]
    generalize m.tick = o at ht
    obtain ⟨m', _ | fault⟩ := o
    · exact ih m' ht
    · exact ht

end Kept

/-! ## The host -/

theorem Outcome.snd_reply (o : Outcome) (r : Reply) : (o.reply r).2 = o.machine := by
  rw [reply]
  split <;> rfl

/-- Loading a file is loading what the file holds. -/
theorem apply_loadFile (fs : Files) (m : Machine) (path : String) :
    m.apply fs (.loadFile path) =
      match readProgram fs path with
      | .ok program => m.apply fs (.load program)
      | .error e => (.error (.load e), m) := by
  rw [apply, loadFile]
  cases readProgram fs path <;> rfl

/-- The machine with those parts of another one that a host can replace. -/
def withHostParts (m source : Machine) : Machine :=
  { m with memory := source.memory, keypad := source.keypad, settings := source.settings }

theorem load_withHostParts (fs : Files) (m source : Machine) (program : List UInt8) :
    (m.withHostParts source).apply fs (.load program) =
      ((source.apply fs (.load program)).1,
        m.withHostParts (source.apply fs (.load program)).2) := by
  simp only [apply, loadProgram]
  by_cases hsize : Layout.programCapacity < program.length
  · simp only [if_pos hsize]
  · simp only [if_neg hsize]
    rfl

/-- Apart from running the program and resetting, a host neither looks at nor replaces anything but
the memory, the keypad and the settings. -/
theorem apply_withHostParts (fs : Files) (m source : Machine) {op : Operation}
    (hop : op.executes = false) (hreset : op ≠ .reset) :
    (m.withHostParts source).apply fs op =
      ((source.apply fs op).1, m.withHostParts (source.apply fs op).2) := by
  cases op with
  | cycle | tick | run => cases hop
  | reset => exact absurd rfl hreset
  | load program => exact load_withHostParts fs m source program
  | loadFile path =>
    rw [apply_loadFile, apply_loadFile]
    cases readProgram fs path with
    | ok program => exact load_withHostParts fs m source program
    | error e => rfl
  | press key | release key =>
    rw [apply, apply]
    cases key.index <;> rfl
  | toggle name =>
    simp only [apply, withHostParts]
    cases source.settings.toggle? name <;> rfl
  | assign name value =>
    simp only [apply, withHostParts]
    cases source.settings.assign name value <;> rfl

/-- Only a host that loads or resets replaces the memory. -/
theorem memory_apply_of_host (fs : Files) (m : Machine) {op : Operation}
    (hop : op.executes = false) (hhands : op.isHandsOff) :
    (m.apply fs op).2.memory = m.memory := by
  cases op with
  | cycle | tick | run => cases hop
  | load | loadFile | reset => cases hhands
  | press key | release key =>
    rw [apply]
    cases key.index <;> rfl
  | toggle name =>
    rw [apply]
    cases m.settings.toggle? name <;> rfl
  | assign name value =>
    rw [apply]
    cases m.settings.assign name value <;> rfl

/-- Apart from running the program and resetting, a host replaces the memory, the keypad and the
settings at most, and the memory only by loading. -/
theorem apply_of_host (fs : Files) (m : Machine) {op : Operation} (hop : op.executes = false)
    (hreset : op ≠ .reset) :
    ∃ memory keypad settings, (m.apply fs op).2 = { m with memory, keypad, settings } ∧
      (op.isHandsOff → memory = m.memory) := by
  have hm : m.apply fs op = ((m.apply fs op).1, m.withHostParts (m.apply fs op).2) :=
    apply_withHostParts fs m m hop hreset
  exact ⟨_, _, _, congrArg Prod.snd hm, memory_apply_of_host fs m hop⟩

/-- A property that everything a host can do keeps. -/
structure KeptByHost (P : Machine → Prop) : Prop extends Kept P where
  memory : ∀ m memory, P m → P { m with memory }
  keypad : ∀ m keypad, P m → P { m with keypad }
  settings : ∀ m settings, P m → P { m with settings }
  reset : ∀ m, P m → P m.reset

namespace KeptByHost

variable {P : Machine → Prop} (hP : KeptByHost P)
include hP

theorem apply (fs : Files) (m : Machine) (op : Operation) (h : P m) : P (m.apply fs op).2 := by
  cases hop : op.executes with
  | false =>
    by_cases hreset : op = .reset
    · rw [hreset]
      exact hP.reset m h
    · obtain ⟨memory, keypad, settings, hm, -⟩ := apply_of_host fs m hop hreset
      rw [hm]
      exact hP.settings _ settings (hP.keypad _ keypad (hP.memory m memory h))
  | true =>
    cases op with
    | cycle =>
      rw [Machine.apply, Outcome.snd_reply]
      exact hP.runCycles 1 m h
    | tick =>
      rw [Machine.apply, Outcome.snd_reply]
      exact hP.tick m h
    | run n =>
      rw [Machine.apply, Outcome.snd_reply]
      exact hP.run n m h
    | _ => cases hop

end KeptByHost

end Machine

end ChipEight
