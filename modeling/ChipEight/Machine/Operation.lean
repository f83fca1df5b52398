import ChipEight.Keypad.KeyRef
import ChipEight.Machine.Cycle
import ChipEight.Machine.Load

/-!
# Host operations

What a host can do to a machine between and around cycles. `Machine.apply` carries out one
operation; it always gives a machine, also when the operation is refused or the program faults.
-/

namespace ChipEight

/-- An operation of the host. -/
inductive Operation where
  | load (program : List UInt8)
  | loadFile (path : String)
  | cycle
  | tick
  | run (ticks : Nat)
  | reset
  | press (key : KeyRef)
  | release (key : KeyRef)
  /-- Turns a switch over, named by letter or by name. -/
  | toggle (name : String)
  /-- Gives a setting a value. -/
  | assign (name : String) (value : Json)
  deriving Repr

/-- Why an operation did not succeed. -/
inductive Refusal where
  | fault (f : Fault)
  | load (e : LoadError)
  | key (e : KeyError)
  /-- The name means no switch that holds `true` or `false`. -/
  | switch (name : String)
  | cycles (e : Settings.CyclesError)
  deriving DecidableEq, Repr

/-- What an operation that succeeded answers. -/
inductive Reply where
  | done
  /-- The instruction of a cycle. -/
  | ran (op : Op)
  /-- The new value of a switch. -/
  | toggled (on : Bool)
  deriving DecidableEq, Repr

namespace Machine

/-- The answer and the machine of a run. -/
def Outcome.reply (o : Outcome) (r : Reply) : Except Refusal Reply × Machine :=
  match o.fault? with
  | none => (.ok r, o.machine)
  | some f => (.error (.fault f), o.machine)

/-- Carries out one operation. -/
def apply (fs : Files) (m : Machine) : Operation → Except Refusal Reply × Machine
  | .load program =>
    match m.loadProgram program with
    | .ok m => (.ok .done, m)
    | .error e => (.error (.load e), m)
  | .loadFile path =>
    match m.loadFile fs path with
    | .ok m => (.ok .done, m)
    | .error e => (.error (.load e), m)
  | .cycle =>
    let op := m.currentOp
    (runCycles 1 m).reply (.ran op)
  | .tick => m.tick.reply .done
  | .run ticks => (run ticks m).reply .done
  | .reset => (.ok .done, m.reset)
  | .press key =>
    match key.index with
    | .ok k => (.ok .done, m.press k)
    | .error e => (.error (.key e), m)
  | .release key =>
    match key.index with
    | .ok k => (.ok .done, m.release k)
    | .error e => (.error (.key e), m)
  | .toggle name =>
    match m.settings.toggle? name with
    | some (on, settings) => (.ok (.toggled on), { m with settings })
    | none => (.error (.switch name), m)
  | .assign name value =>
    match m.settings.assign name value with
    | .ok settings => (.ok .done, { m with settings })
    | .error e => (.error (.cycles e), m)

/-- Carries out operations one after the other, whether they succeed or not. -/
def applyAll (fs : Files) (m : Machine) (ops : List Operation) : Machine :=
  ops.foldl (fun m op => (m.apply fs op).2) m

end Machine

end ChipEight
