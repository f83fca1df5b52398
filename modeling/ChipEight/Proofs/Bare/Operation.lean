import ChipEight.Proofs.Bare.Instruction

/-!
# Operations of the bare machine

Cycles, ticks, runs and what a host may do in between, as actions. `apply` carries out one
operation of the host.
-/

namespace ChipEight.BareMachine

/-- Memory at power-on: zeros, with the glyphs copied over them. -/
def freshMemory : List Int :=
  let zeros : List Int := List.replicate Layout.memorySize 0
  zeros.take Layout.fontBase ++ Layout.font.map (fun b => (b.toNat : Int)) ++
    zeros.drop (Layout.fontBase + Layout.font.length)

/-- The machine at power-on. A tick has as many cycles as asked for, but at least one. -/
def new (switch : Switch → Json) (cyclesPerTick : Int) (draws : Nat → Int) : BareMachine where
  memory := freshMemory
  v := List.replicate 16 0
  i := 0
  pc := Layout.programStart
  sp := 0
  delay := 0
  sound := 0
  stack := List.replicate 16 0
  pixels := List.replicate Layout.displayHeight (List.replicate Layout.displayWidth false)
  keys := List.replicate 16 false
  blocked := false
  switch
  cyclesPerTick := max 1 cyclesPerTick
  draws
  drawn := 0
  cycles := 0
  ticks := 0

/-! ## Execution -/

/-- One cycle; answers its instruction. -/
def cycle : Action Op := do
  let w ← readWord (← get).pc
  let op := decode w
  let distance ← carryOut op w
  setCounter ((← get).pc + distance)
  modify fun s => { s with cycles := s.cycles + 1 }
  return op

/-- Repeats an action; the first time that it stops ends all. -/
def repeated {α : Type} (act : Action α) : Nat → Action Unit
  | 0 => pure ()
  | n + 1 => do
    let _ ← act
    repeated act n

def timerStep : Action Unit := do
  if 0 < (← get).delay then modify fun s => { s with delay := s.delay - 1 }
  if 0 < (← get).sound then modify fun s => { s with sound := s.sound - 1 }
  modify fun s => { s with ticks := s.ticks + 1 }

def tick : Action Unit := do
  repeated cycle (← get).cyclesPerTick.toNat
  timerStep

def run (n : Nat) : Action Unit := repeated tick n

/-! ## Host -/

/-- Copies a program over the cells from the start of the program region on. The list of cells
becomes longer when the program reaches beyond its end. -/
def load (program : List UInt8) : Action Unit := do
  if Layout.programCapacity < program.length then
    throw (.refused (.load (.tooLarge program.length)))
  modify fun s => { s with
    memory := s.memory.take Layout.programStart ++ program.map (fun b => (b.toNat : Int)) ++
      s.memory.drop (Layout.programStart + program.length) }

def loadFile (fs : Files) (path : String) : Action Unit :=
  match Machine.readProgram fs path with
  | .ok program => load program
  | .error e => throw (.refused (.load e))

/-- Power-on state; the switches, the speed and the random source stay as they are. -/
def reset : Action Unit := modify fun s =>
  { s with
    memory := freshMemory, v := List.replicate 16 0, i := 0, pc := Layout.programStart, sp := 0,
    delay := 0, sound := 0, stack := List.replicate 16 0, pixels := darkened s.pixels,
    keys := List.replicate 16 false, blocked := false, cycles := 0, ticks := 0 }

def setKey (key : KeyRef) (pressed : Bool) : Action Unit :=
  match key.index with
  | .error e => throw (.refused (.key e))
  | .ok k => do
    let keys ← replaced (← get).keys k.val pressed
    modify fun s => { s with keys }

def setSwitch (q : Switch) (value : Json) : Action Unit :=
  modify fun s => { s with switch := fun r => if r = q then value else s.switch r }

/-- Turns a switch over and answers its new value. -/
def toggle (name : String) : Action Bool := do
  match Settings.resolve? name with
  | none => throw (.refused (.switch name))
  | some q =>
    match (← get).switch q with
    | .bool b =>
      setSwitch q (.bool !b)
      return !b
    | _ => throw (.refused (.switch name))

/-- Gives a setting a value; the number of cycles in a tick is raised to one. -/
def assign (name : String) (value : Json) : Action Unit :=
  if name = Settings.cyclesName then
    match Settings.integerOf value with
    | .ok n => modify fun s => { s with cyclesPerTick := max 1 n }
    | .error e => throw (.refused (.cycles e))
  else
    match Switch.ofName? name with
    | some q => setSwitch q value
    | none => pure ()

def apply (fs : Files) : Operation → Action Reply
  | .load program => do load program; return .done
  | .loadFile path => do loadFile fs path; return .done
  | .cycle => return .ran (← cycle)
  | .tick => do tick; return .done
  | .run n => do run n; return .done
  | .reset => do reset; return .done
  | .press key => do setKey key true; return .done
  | .release key => do setKey key false; return .done
  | .toggle name => return .toggled (← toggle name)
  | .assign name value => do assign name value; return .done

/-- The machine that an action leaves behind, whether it stopped or not. -/
def left {α : Type} : EStateM.Result Stop BareMachine α → BareMachine
  | .ok _ s => s
  | .error _ s => s

end ChipEight.BareMachine
