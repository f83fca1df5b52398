import ChipEight.Proofs.Bare.Agreement
import ChipEight.Proofs.Footprint
import ChipEight.Proofs.Invariant

/-!
# The bare machine behaves alike

From instructions to cycles, ticks, runs and all operations of the host: `run_apply` says that an
operation on what comes out of a machine answers as the machine does and ends in what comes out of
the machine after it. Along the way the random source keeps giving the bytes of the integers
(`gives_kept`).
-/

namespace ChipEight

namespace Machine

/-- How a run ends, read as the result of an action that answers `a`. -/
def Outcome.result {α : Type} (o : Outcome) (d : Nat → Int) (a : α) :
    EStateM.Result Stop BareMachine α :=
  match o.fault? with
  | none => .ok a (o.machine.bare d)
  | some f => .error f.stop (o.machine.bare d)

/-- The answer to an operation and the machine after it, read as the result of an action. -/
def answer (d : Nat → Int) :
    Except Refusal Reply × Machine → EStateM.Result Stop BareMachine Reply
  | (.ok r, m) => .ok r (m.bare d)
  | (.error e, m) => .error e.stop (m.bare d)

/-- The source gives the bytes of the same integers after any number of draws. -/
theorem gives_kept (d : Nat → Int) : KeptByHost fun m => m.random.Gives d where
  cycle m hd _ := by
    show (m.effect (decode m.fetch) m.fetch).random.Gives d
    by_cases h : decode m.fetch = .random
    · rw [h]
      exact hd.next
    · rw [random_effect m m.fetch h]
      exact hd
  timerStep _ hd := hd
  memory _ _ hd := hd
  keypad _ _ hd := hd
  settings _ _ hd := hd
  reset _ hd := hd

end Machine

namespace BareMachine

variable (m : Machine) {d : Nat → Int}

/-! ## Cycles, ticks and runs -/

theorem run_cycle (hd : m.random.Gives d) :
    cycle.run (m.bare d) =
      match m.fault? with
      | some fault => .error fault.stop (m.bare d)
      | none => .ok m.currentOp (m.cycle.bare d) := by
  have hpc (m' : Machine) (distance : Word) :
      Word.ofInt ((m'.pc.toNat : Int) + distance.toNat) = m'.pc + distance := by
    rw [Word.ofInt_eq_iff, UInt16.toNat_add]
    omega
  simp only [cycle, EStateM.run_bind, EStateM.run_get, pc_bare, run_fetch, run_carryOut m d _ hd]
  cases h : m.fault? with
  | some fault =>
    have h' : m.faultOf? (decode m.fetch) m.fetch = some fault := h
    simp only [h']
  | none =>
    have h' : m.faultOf? (decode m.fetch) m.fetch = none := h
    simp only [h', pc_bare, run_setCounter, hpc]
    rfl

theorem run_cycles (n : Nat) (hd : m.random.Gives d) :
    (repeated cycle n).run (m.bare d) = (Machine.runCycles n m).result d () := by
  induction n generalizing m with
  | zero => rfl
  | succ n ih =>
    simp only [repeated, EStateM.run_bind, run_cycle m hd, Machine.runCycles]
    cases h : m.fault? with
    | some fault => rfl
    | none => exact ih m.cycle ((Machine.gives_kept d).cycle m hd h)

theorem toNat_countDown (t : UInt8) :
    ((Machine.countDown t).toNat : Int) =
      if 0 < (t.toNat : Int) then (t.toNat : Int) - 1 else t.toNat := by
  have ht := t.toNat_lt
  by_cases h : 0 < t
  · have h' : 0 < t.toNat := UInt8.lt_iff_toNat_lt.mp h
    rw [Machine.countDown, if_pos h, if_pos (by omega), UInt8.toNat_sub, UInt8.toNat_one]
    omega
  · have h' : t.toNat = 0 := by
      rw [UInt8.lt_iff_toNat_lt, UInt8.toNat_zero] at h
      omega
    rw [Machine.countDown, if_neg h, if_neg (by omega), h']
    rfl

theorem run_timerStep_eq (s : BareMachine) :
    timerStep.run s = .ok () { s with
      delay := if 0 < s.delay then s.delay - 1 else s.delay
      sound := if 0 < s.sound then s.sound - 1 else s.sound
      ticks := s.ticks + 1 } := by
  by_cases hd : 0 < s.delay <;> by_cases hs : 0 < s.sound <;> simp [timerStep, hd, hs]

theorem run_timerStep : timerStep.run (m.bare d) = .ok () (m.timerStep.bare d) := by
  have hbare : m.timerStep.bare d = { m.bare d with
      delay := ((Machine.countDown m.delay).toNat : Int)
      sound := ((Machine.countDown m.sound).toNat : Int)
      ticks := m.ticks + 1 } := rfl
  rw [run_timerStep_eq, hbare, toNat_countDown, toNat_countDown]
  rfl

theorem run_tick (hd : m.random.Gives d) : tick.run (m.bare d) = m.tick.result d () := by
  have hcycles : (m.bare d).cyclesPerTick.toNat = m.settings.cycles := by simp [Machine.bare]
  simp only [tick, EStateM.run_bind, EStateM.run_get, hcycles, run_cycles m _ hd, Machine.tick,
    Machine.Outcome.result]
  rcases Machine.runCycles m.settings.cycles m with ⟨m', _ | fault⟩
  · exact run_timerStep m'
  · rfl

theorem run_run (n : Nat) (hd : m.random.Gives d) :
    (run n).run (m.bare d) = (Machine.run n m).result d () := by
  induction n generalizing m with
  | zero => rfl
  | succ n ih =>
    have h := (Machine.gives_kept d).tick m hd
    rw [Machine.run]
    simp only [run, repeated, EStateM.run_bind, run_tick m hd, Machine.Outcome.result]
    generalize m.tick = o at h
    obtain ⟨m', _ | fault⟩ := o
    · exact ih m' h
    · rfl

/-! ## The host -/

theorem run_load (program : List UInt8) :
    (load program).run (m.bare d) =
      match m.loadProgram program with
      | .ok m' => .ok () (m'.bare d)
      | .error e => .error (.refused (.load e)) (m.bare d) := by
  by_cases h : Layout.programCapacity < program.length
  · simp [load, Machine.loadProgram, h]
  · have hfits : (UInt16.ofNat Layout.programStart).toNat + program.length ≤ 4096 := by
      have hstart : (UInt16.ofNat Layout.programStart).toNat = 512 := rfl
      have hcapacity : Layout.programCapacity = 3215 := rfl
      omega
    have hmem := Memory.toList_writeAll m.memory _ program hfits
    rw [show (UInt16.ofNat Layout.programStart).toNat = Layout.programStart from rfl] at hmem
    simp [load, Machine.loadProgram, h, Machine.bare, hmem]

theorem run_loadFile (fs : Files) (path : String) :
    (loadFile fs path).run (m.bare d) =
      match m.loadFile fs path with
      | .ok m' => .ok () (m'.bare d)
      | .error e => .error (.refused (.load e)) (m.bare d) := by
  rw [loadFile, Machine.loadFile]
  cases Machine.readProgram fs path with
  | ok program => exact run_load m program
  | error e => rfl

theorem memory_initial :
    Memory.initial.cells.toList.map (fun b => (b.toNat : Int)) = freshMemory := by
  have h : (UInt16.ofNat Layout.fontBase).toNat + Layout.font.length ≤ 4096 := by decide
  have hbase : (UInt16.ofNat Layout.fontBase).toNat = Layout.fontBase := rfl
  have hzero : Memory.zero.cells.toList.map (fun b => (b.toNat : Int)) =
      List.replicate Layout.memorySize 0 := by
    rw [Memory.zero, Vector.toList_replicate, List.map_replicate]
    rfl
  rw [Memory.initial, Memory.toList_writeAll _ _ _ h, hbase, freshMemory, List.map_append,
    List.map_append, List.map_take, List.map_drop, hzero]

theorem run_reset : reset.run (m.bare d) = .ok () (m.reset.bare d) := by
  have hpixels : darkened (m.bare d).pixels = _ := darkened_rows m.display
  have hv : (m.reset.bare d).v = List.replicate 16 0 := by
    simp [Machine.bare, Machine.reset, Machine.new]
  have hkeys : (m.reset.bare d).keys = List.replicate 16 false := by
    simp [Machine.bare, Machine.reset, Machine.new, Keypad.empty]
  have hmemory : (m.reset.bare d).memory = freshMemory := memory_initial
  simp only [reset, EStateM.run_modify, hpixels, ← hv, ← hkeys, ← hmemory]
  rfl

theorem run_setKey (key : KeyRef) (pressed : Bool) :
    (setKey key pressed).run (m.bare d) =
      match key.index with
      | .ok k => .ok () ({ m with keypad := m.keypad.set k pressed }.bare d)
      | .error e => .error (.refused (.key e)) (m.bare d) := by
  rw [setKey]
  cases key.index with
  | error e => rfl
  | ok k =>
    have hk : k.val < (m.bare d).keys.length := by simp [Machine.bare]
    simp only [EStateM.run_bind, EStateM.run_get, run_replaced hk]
    simp [Machine.bare, Keypad.set, Vector.toList_set]

theorem run_setSwitch (q : Switch) (value : Json) :
    (setSwitch q value).run (m.bare d) =
      .ok () ({ m with settings := m.settings.set q value }.bare d) := by
  have hget : (fun r => if r = q then value else m.settings.get r) =
      (m.settings.set q value).get := by
    funext r
    by_cases h : r = q
    · rw [if_pos h, h, Settings.get_set_self]
    · rw [if_neg h, Settings.get_set_of_ne _ _ (Ne.symm h)]
  simp [setSwitch, Machine.bare, hget]

theorem run_toggle (name : String) :
    (toggle name).run (m.bare d) =
      match m.settings.toggle? name with
      | some (on, settings) => .ok on ({ m with settings }.bare d)
      | none => .error (.refused (.switch name)) (m.bare d) := by
  rw [toggle, Settings.toggle?]
  cases Settings.resolve? name with
  | none => rfl
  | some q =>
    have hq : (m.bare d).switch q = m.settings.get q := rfl
    simp only [EStateM.run_bind, EStateM.run_get, hq]
    cases m.settings.get q with
    | bool b =>
      simp only [EStateM.run_bind, run_setSwitch]
      rfl
    | _ => rfl

theorem run_assign (name : String) (value : Json) :
    (assign name value).run (m.bare d) =
      match m.settings.assign name value with
      | .ok settings => .ok () ({ m with settings }.bare d)
      | .error e => .error (.refused (.cycles e)) (m.bare d) := by
  rw [assign, Settings.assign]
  split
  · cases Settings.integerOf value with
    | error e => rfl
    | ok n =>
      have hn : ((max 1 n.toNat : Nat) : Int) = max 1 n := by omega
      have hget : (m.settings.withCycles n).get = m.settings.get := by
        funext q
        cases q <;> rfl
      have hbare : ({ m with settings := m.settings.withCycles n }.bare d) =
          { m.bare d with cyclesPerTick := max 1 n } := by
        simp only [Machine.bare, hget]
        simp only [Settings.withCycles, hn]
      simp only [EStateM.run_modify, Except.map, hbare]
  · cases Switch.ofName? name with
    | none => rfl
    | some q => exact run_setSwitch m q value

/-- Every operation of the host answers as on the machine and leaves behind the same. -/
theorem run_apply (fs : Files) (hd : m.random.Gives d) (op : Operation) :
    (apply fs op).run (m.bare d) = Machine.answer d (m.apply fs op) := by
  cases op with
  | load program =>
    simp only [apply, EStateM.run_bind, run_load, Machine.apply]
    cases m.loadProgram program <;> rfl
  | loadFile path =>
    simp only [apply, EStateM.run_bind, run_loadFile, Machine.apply]
    cases m.loadFile fs path <;> rfl
  | cycle =>
    simp only [apply, EStateM.run_bind, run_cycle m hd, Machine.apply, Machine.runCycles,
      Machine.Outcome.reply]
    cases m.fault? <;> rfl
  | tick =>
    simp only [apply, EStateM.run_bind, run_tick m hd, Machine.apply, Machine.Outcome.result,
      Machine.Outcome.reply]
    cases m.tick.fault? <;> rfl
  | run n =>
    simp only [apply, EStateM.run_bind, run_run m n hd, Machine.apply, Machine.Outcome.result,
      Machine.Outcome.reply]
    cases (Machine.run n m).fault? <;> rfl
  | reset =>
    simp only [apply, EStateM.run_bind, run_reset]
    rfl
  | press key =>
    simp only [apply, EStateM.run_bind, run_setKey, Machine.apply]
    cases key.index <;> rfl
  | release key =>
    simp only [apply, EStateM.run_bind, run_setKey, Machine.apply]
    cases key.index <;> rfl
  | toggle name =>
    simp only [apply, EStateM.run_bind, run_toggle, Machine.apply]
    cases m.settings.toggle? name <;> rfl
  | assign name value =>
    simp only [apply, EStateM.run_bind, run_assign, Machine.apply]
    cases m.settings.assign name value <;> rfl

end BareMachine

end ChipEight
