import ChipEight.CommandLine.Help
import ChipEight.Display.Format
import ChipEight.Keypad.KeyRef
import ChipEight.Log
import ChipEight.Machine.Panel
import ChipEight.Machine.Report
import ChipEight.Pacing.Clock
import ChipEight.Settings.Document

/-!
# Sessions

What the program does with its options: it settles the log threshold, builds the settings, loads
the program, holds the keys, runs the ticks, and writes what was asked for. Every stage is a
function of values: the files are given, the clock is a value, and what the program says and
writes is part of the result.
-/

namespace ChipEight

namespace Session

/-! ## Failures -/

/-- What can stop a session before its output. -/
inductive Failure where
  | logLevel (name : String)
  | settings (e : Settings.Error)
  /-- The speed is beyond all doubles. -/
  | speed
  | seed
  | load (e : LoadError)
  | key (e : KeyError)
  | fault (f : Fault)
  /-- The clock has no such time. -/
  | clock
  deriving DecidableEq

/-- The environment variable of the log threshold. -/
def levelVariable : String := "CHIP8_LOG_LEVEL"

def Failure.message : Failure → String
  | logLevel name => "Invalid " ++ levelVariable ++ " level: " ++ Text.quoted name
  | settings e => e.message
  | speed => "integer division result too large for a float"
  | seed => "expected non-negative integer"
  | load e => e.message
  | key e => e.message
  | fault f => f.message
  | clock => "int too large to convert to float"

/-- Is a failure reported in the log? The others are errors of the one who wrote the settings or
set up the clock, and end the program as they are. -/
def Failure.isReported : Failure → Bool
  | settings .notObject | settings (.cycles .notNumber) | settings (.cycles .infinite) => false
  | speed | clock => false
  | _ => true

/-- What can go wrong with the picture at the end; these failures are not reported either. -/
inductive OutputError where
  | scale (n : Int)
  | format (e : PictureFormat.Error)
  | file (e : FileError)
  deriving DecidableEq

def OutputError.message : OutputError → String
  | scale n => Renderer.badScaleText n
  | format e => e.message
  | file e => e.message

/-! ## Stages -/

/-- The log threshold: by the number of `-v`, or else by the name in the environment, whose case
does not matter. -/
def threshold (options : Options) (level : Option String) : Except Failure LogLevel :=
  match options.verbosity with
  | 0 =>
    let name := String.ofList (Text.upper (level.getD "WARNING").toList)
    match LogLevel.ofName? name with
    | some l => .ok l
    | none => .error (.logLevel name)
  | 1 => .ok .info
  | _ => .ok .debug

/-- The settings that a configuration file gives, or the default ones. An empty path is no file. -/
def baseSettings (options : Options) (fs : Files) : Except Failure Settings :=
  match options.config with
  | none | some "" => .ok .standard
  | some path => (Settings.load fs path).mapError .settings

/-- The settings of a session: letters turn switches on, and a speed replaces the number of
instructions in a tick. -/
def addOptions (base : Settings) (letters : String) (speed : Option Int) :
    Except Failure Settings :=
  let s := base.turnOnFrom (Settings.ofLetters letters)
  match speed with
  | none => .ok s
  | some hz =>
    match s.withSpeed? hz with
    | some s => .ok s
    | none => .error .speed

/-- The random source of a seed; without one it is the source of `entropy`. -/
def randomSource (seed : Option Int) (entropy : Nat) : Except Failure RandomSource :=
  match seed with
  | none => .ok (.ofSeed entropy)
  | some n => if n < 0 then .error .seed else .ok (.ofSeed n.toNat)

/-- Holds keys, in order, until one is refused. -/
def holdKeys (m : Machine) : List String → Except Failure Machine
  | [] => .ok m
  | name :: names =>
    match (KeyRef.name name).index with
    | .ok k => holdKeys (m.press k) names
    | .error e => .error (.key e)

/-- A value, or a failure, and the log so far. -/
abbrev Logged (α : Type) := List LogRecord × Except Failure α

/-- The machine that a session starts with. -/
def prepare (options : Options) (fs : Files) (entropy : Nat) : Logged Machine :=
  match baseSettings options fs with
  | .error e => ([], .error e)
  | .ok base =>
    -- Letters are looked at as soon as the file is read, whatever comes after them.
    let warnings := Settings.letterWarnings options.letters
    let start : Except Failure Machine := do
      let settings ← addOptions base options.letters options.speed
      return Machine.new settings (← randomSource options.seed entropy)
    match start with
    | .error e => (warnings, .error e)
    | .ok m =>
      (warnings ++ Machine.loadFileRecords fs options.program,
        match m.loadFile fs options.program with
        | .error e => .error (.load e)
        | .ok m => holdKeys m options.press)

/-- What is said when all ticks have been run. -/
def ranRecord (m : Machine) : LogRecord :=
  ⟨.program, .info,
    "Ran " ++ toString m.ticks ++ " ticks (" ++ toString m.cycles ++ " cycles)"⟩

/-- The log of a run and the machine after it. `trace` has the last record first. -/
def closeRun (trace : List LogRecord) (m : Machine) (fault? : Option Fault) : Logged Machine :=
  match fault? with
  | none => (trace.reverse ++ [ranRecord m], .ok m)
  | some f => (trace.reverse, .error (.fault f))

/-- Runs the ticks without regard to time. -/
def runFree (level : LogLevel) (ticks : Int) (m : Machine) : Logged Machine :=
  let (outcome, trace) := Machine.watchRun (Machine.tracer level) ticks.toNat m []
  closeRun trace outcome.machine outcome.fault?

/-- A paced run before its first turn. -/
def startPace {τ : Type} (period : τ) (ticks : Int) (m : Machine) : Pace τ (List LogRecord) where
  scheduler := { period }
  left := ticks.toNat
  machine := m
  trace := []

/-- The log and the machine of a paced run that is over. -/
def closePace {τ : Type} (p : Pace τ (List LogRecord)) : Pace.Ending → Logged Machine
  | .done fault? => closeRun p.trace p.machine fault?
  | .noTime | .impatient => (p.trace.reverse, .error .clock)

/-- Runs the ticks at the pace of a clock, in no more turns than `patience`. -/
def runPaced {κ ρ τ : Type} [Timeline ρ τ] (level : LogLevel) (ticks : Int) (period : τ)
    (c : Clock κ ρ τ) (patience : Nat) (m : Machine) (k : κ) : Logged Machine × κ × Nat :=
  let r := Pace.run (Machine.tracer level) c patience (startPace period ticks m) k 0
  (closePace r.pace r.ending, r.clock, r.sleeps)

/-! ## Output -/

/-- A picture to be written to a file. -/
structure PictureFile where
  path : String
  scale : Nat
  picture : Picture (Layout.displayWidth * scale) (Layout.displayHeight * scale)

/-- The picture that was asked for; an empty path asks for none. -/
def pictureFile (options : Options) (fs : Files) (m : Machine) :
    Except OutputError (Option PictureFile) :=
  match options.png with
  | none | some "" => .ok none
  | some path =>
    match Renderer.make? options.scale .black .white with
    | none => .error (.scale options.scale)
    | some r =>
      -- The format is settled by the name alone, before the file is touched.
      match PictureFormat.check path with
      | some e => .error (.format e)
      | none =>
        match fs.obstacle? path with
        | some e => .error (.file e)
        | none => .ok (some ⟨path, r.scale, r.render m.display⟩)

/-- What is said when a picture has been written. -/
def savedRecord (f : PictureFile) : LogRecord :=
  ⟨.program, .info, "Saved display to " ++ f.path⟩

/-- How a session ended. -/
inductive Ending where
  /-- With this exit code. -/
  | exit (code : Nat)
  /-- With a failure that is not reported. -/
  | failed (e : Failure)
  /-- With a failure of the output. -/
  | outputFailed (e : OutputError)
  deriving DecidableEq

/-- All that a session says and writes. -/
structure Transcript where
  ending : Ending
  /-- Text on the standard output. -/
  output : String := ""
  /-- Lines on the standard error. -/
  errors : List String := []
  picture : Option PictureFile := none

/-- Lines of the records that pass the threshold. -/
def lines (level : LogLevel) (rs : List LogRecord) : List String :=
  (level.select rs).map LogRecord.line

/-- The end of a session that failed before its output. -/
def fail (level : LogLevel) (log : List LogRecord) (e : Failure) : Transcript :=
  if e.isReported then
    { ending := .exit 1, errors := lines level (log ++ [⟨.program, .error, e.message⟩]) }
  else { ending := .failed e, errors := lines level log }

/-- The end of a session that ran all its ticks. -/
def finish (options : Options) (fs : Files) (level : LogLevel) (log : List LogRecord)
    (m : Machine) : Transcript :=
  let output := if options.dump then m.report ++ "\n" else ""
  match pictureFile options fs m with
  | .error e => { ending := .outputFailed e, output, errors := lines level log }
  | .ok none => { ending := .exit 0, output, errors := lines level log }
  | .ok (some f) =>
    { ending := .exit 0, output, errors := lines level (log ++ [savedRecord f]),
      picture := some f }

/-- A session that a wrong command line ends. -/
def usage (e : UsageError) : Transcript :=
  { ending := .exit 2, errors := ["chip8: error: " ++ e.message] }

/-- A session that only explains the command line. -/
def help : Transcript := { ending := .exit 0, output := CommandLine.helpText }

/-- A session that fails to settle its log threshold; there is no log yet to report it in. -/
def failBare (e : Failure) : Transcript := { ending := .exit 1, errors := [e.message] }

/-- What surrounds a session. -/
structure Environment (κ : Type) where
  files : Files
  /-- The name of the log threshold. -/
  level : Option String
  /-- The seed of sessions that ask for none. -/
  entropy : Nat
  clock : κ
  /-- The most turns of a paced run. -/
  patience : Nat

/-- A session that is ready to run its ticks. -/
structure Ready where
  level : LogLevel
  /-- The log so far. -/
  log : List LogRecord
  machine : Machine

/-- All that comes before the run; a session that fails there is over. -/
def ready (options : Options) (fs : Files) (level : Option String) (entropy : Nat) :
    Except Transcript Ready :=
  match threshold options level with
  | .error e => .error (failBare e)
  | .ok level =>
    match prepare options fs entropy with
    | (log, .error e) => .error (fail level log e)
    | (log, .ok machine) => .ok { level, log, machine }

/-- All that comes after the run. -/
def Ready.close (r : Ready) (options : Options) (fs : Files) : Logged Machine → Transcript
  | (ran, .error e) => fail r.level (r.log ++ ran) e
  | (ran, .ok m) => finish options fs r.level (r.log ++ ran) m

/-- A session over doubles: the transcript, the clock after it, and how often it slept. -/
def runOptions {κ : Type} (c : Clock κ Number Binary64) (env : Environment κ)
    (options : Options) : Transcript × κ × Nat :=
  match ready options env.files env.level env.entropy with
  | .error ended => (ended, env.clock, 0)
  | .ok r =>
    if options.realtime then
      let (ran, clock, sleeps) := runPaced r.level options.ticks (Pacing.period Layout.tickRate) c
        env.patience r.machine env.clock
      (r.close options env.files ran, clock, sleeps)
    else (r.close options env.files (runFree r.level options.ticks r.machine), env.clock, 0)

/-- A session from the words of the command line. -/
def run {κ : Type} (c : Clock κ Number Binary64) (env : Environment κ) (words : List String) :
    Transcript × κ × Nat :=
  match CommandLine.parse words with
  | .error e => (usage e, env.clock, 0)
  | .ok .help => (help, env.clock, 0)
  | .ok (.run options) => runOptions c env options

end Session

end ChipEight
