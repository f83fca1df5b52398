import ChipEight.CommandLine.Session
import ChipEight.Display.Png

/-!
# Command line program

The outer layer: it looks at the files that a command line names, lets `Session` decide, and prints
and writes what `Session` decided on. Only a paced run goes back and forth between the two, once
for every reading of the clock.
-/

namespace ChipEight.Program

/-! ## Files of the host -/

/-- What a path leads to. A directory is found by the refusal to read it. -/
def look (path : String) : IO Found := do
  if path = "" ∨ '\x00' ∈ path.toList then return .missing
  match ← (IO.FS.readBinFile path).toBaseIO with
  | .ok bytes => return .file bytes.toList
  | .error (.noFileOrDirectory ..) => return .missing
  | .error (.inappropriateType none ..) => return .directory
  | .error (.inappropriateType (some _) ..) => return .notDirectory
  | .error (.invalidArgument _ code reason) => return .barred ⟨some code.toNat, reason⟩
  | .error e => return .faulty ⟨none, toString e⟩

/-- The path of the directory that holds a path. -/
def parent (path : String) : String :=
  let names := Path.components path
  if names.length = 1 then "." else "/".intercalate names.dropLast ++ "/"

/-- Whether a file can be created at a path, as far as one can tell beforehand. -/
def lookForRoom (path : String) : IO (Option FileError) := do
  if '\x00' ∈ path.toList then return some .nul
  if path = "" then return some (.missing path)
  match ← look (parent path), ← look path with
  | .directory, .directory => return some (.isDirectory path)
  | .directory, _ => return none
  | .missing, _ => return some (.missing path)
  | _, _ => return some (.notDirectory path)

/-- Looks at the files that a session needs. -/
def lookAtFiles (options : Options) : IO Files := do
  let program := Path.normalise options.program
  let config := options.config.getD ""
  let atProgram ← look program
  let atConfig ← look config
  let room ← lookForRoom (options.png.getD "")
  return {
    find := fun path =>
      if path = program then atProgram else if path = config then atConfig else .missing
    obstacle? := fun _ => room }

/-! ## Clock of the host -/

/-- Reads the clock, in seconds. -/
def readClock : IO Number := do
  return .float (.ofQuotient false (← IO.monoNanosNow) 1000000000)

/-- Sleeps for at least a number of seconds. -/
def sleep (time : Binary64) : IO Unit :=
  match time with
  | .finite false m e =>
    let (units, parts) := Binary64.scaled 1000 1 (-e)
    IO.sleep (UInt32.ofNat ((m * units + parts - 1) / parts))
  | _ => pure ()

/-- Runs the ticks of a paced run by the clock of the host. -/
def keepPace (level : LogLevel) (start : Pace Binary64 (List LogRecord)) :
    IO (Session.Logged Machine) := do
  let mut p := start
  while 0 < p.left do
    match p.serve? (Machine.tracer level) (← readClock) with
    | none => return Session.closePace p .noTime
    | some (served, some fault) => return Session.closePace served (.done (some fault))
    | some (served, none) =>
      p := served
      match p.pause? (← readClock) with
      | none => return Session.closePace p .noTime
      | some time => sleep time
  return Session.closePace p (.done none)

/-! ## Sessions -/

/-- A seed that nobody can foresee. -/
def entropy : IO Nat := do
  return (← IO.getRandomBytes 16).foldl (fun n b => n * 256 + b.toNat) 0

/-- Runs a session up to its transcript. -/
def session (options : Options) : IO Session.Transcript := do
  let fs ← lookAtFiles options
  match Session.ready options fs (← IO.getEnv Session.levelVariable) (← entropy) with
  | .error ended => return ended
  | .ok r =>
    let ran ←
      if options.realtime then
        keepPace r.level
          (Session.startPace (Pacing.period Layout.tickRate) options.ticks r.machine)
      else pure (Session.runFree r.level options.ticks r.machine)
    return r.close options fs ran

/-- Prints and writes what a session decided on; the result is the exit code. A picture is written
in one format whatever the ending of its name, since readers go by the first bytes of a file. -/
def present (t : Session.Transcript) : IO UInt32 := do
  IO.print t.output
  if let some f := t.picture then IO.FS.writeBinFile f.path (Png.encode f.picture)
  t.errors.forM IO.eprintln
  match t.ending with
  | .exit code => return UInt32.ofNat code
  | .failed e => IO.eprintln e.message; return 1
  | .outputFailed e => IO.eprintln e.message; return 1

end ChipEight.Program

/-- Runs the program on the words of its command line. -/
def main (words : List String) : IO UInt32 := do
  match ChipEight.CommandLine.parse words with
  | .error e =>
    IO.eprint ChipEight.CommandLine.usageText
    ChipEight.Program.present (ChipEight.Session.usage e)
  | .ok .help => ChipEight.Program.present ChipEight.Session.help
  | .ok (.run options) => ChipEight.Program.present (← ChipEight.Program.session options)
