import ChipEight.Machine.Operation

/-!
# Log

Records of what the library does, each with a level and the part it comes from, and what the
operations of the host write to the log.
-/

namespace ChipEight

/-- How important a record is. -/
inductive LogLevel where
  | notSet
  | debug
  | info
  | warning
  | error
  | critical
  deriving DecidableEq, Repr

namespace LogLevel

/-- The rank of a level. -/
def rank : LogLevel → Nat
  | notSet => 0
  | debug => 10
  | info => 20
  | warning => 30
  | error => 40
  | critical => 50

def name : LogLevel → String
  | notSet => "NOTSET"
  | debug => "DEBUG"
  | info => "INFO"
  | warning => "WARNING"
  | error => "ERROR"
  | critical => "CRITICAL"

/-- The level of a name; two levels have a second name. -/
def ofName? : String → Option LogLevel
  | "CRITICAL" | "FATAL" => some critical
  | "ERROR" => some error
  | "WARN" | "WARNING" => some warning
  | "INFO" => some info
  | "DEBUG" => some debug
  | "NOTSET" => some notSet
  | _ => none

end LogLevel

/-- The part of the library that writes a record. -/
inductive LogSource where
  | program
  | emulator
  | settings
  deriving DecidableEq, Repr

def LogSource.name : LogSource → String
  | program => "chip8"
  | emulator => "chip8.emulator"
  | settings => "chip8.config.settings"

/-- One record. -/
structure LogRecord where
  source : LogSource
  level : LogLevel
  message : String
  deriving DecidableEq, Repr

namespace LogRecord

/-- A record as a line of text. -/
def line (r : LogRecord) : String :=
  "[" ++ r.source.name ++ "] " ++ r.level.name ++ ": " ++ r.message

/-- Does a record pass a threshold? -/
def passes (r : LogRecord) (threshold : LogLevel) : Bool := threshold.rank ≤ r.level.rank

end LogRecord

/-- The records of a list that pass a threshold. -/
def LogLevel.select (threshold : LogLevel) (rs : List LogRecord) : List LogRecord :=
  rs.filter (·.passes threshold)

namespace Settings

/-- One warning for each character that is no letter of a switch. -/
def letterWarnings (letters : String) : List LogRecord :=
  (unknownLetters letters).map fun c => ⟨.settings, .warning, unknownLetterText c⟩

end Settings

namespace Machine

/-- The trace of a cycle: address, word and pattern. -/
def traceRecord (m : Machine) : LogRecord :=
  ⟨.emulator, .debug,
    "PC=0x" ++ Hex.upper 3 m.pc.toNat ++ " " ++ m.fetch.text ++ " " ++ m.currentOp.pattern⟩

/-- What loading a program writes to the log. -/
def loadRecords (program : List UInt8) : List LogRecord :=
  let size := toString program.length
  if Layout.programCapacity < program.length then
    [⟨.emulator, .error,
      "ROM size too large: " ++ size ++ " bytes (limit " ++ toString Layout.programCapacity ++ ")"⟩]
  else
    [⟨.emulator, .info,
      "Loaded " ++ size ++ " byte program at 0x" ++ Hex.upper 3 Layout.programStart⟩]

/-- What loading a program file writes to the log. -/
def loadFileRecords (fs : Files) (path : String) : List LogRecord :=
  match readProgram fs path with
  | .ok program => loadRecords program
  | .error (.barred ..) => []
  | .error (.unreadable path fault) =>
    [⟨.emulator, .error, "Rom " ++ path ++ " unreadable: " ++ fault.text⟩]
  | .error _ => [⟨.emulator, .error, "Rom " ++ Path.normalise path ++ " not found"⟩]

/-- A watcher that traces every cycle when the threshold asks for it. The last record is the
first of the list. -/
def tracer (threshold : LogLevel) (m : Machine) (trace : List LogRecord) : List LogRecord :=
  if threshold.rank ≤ LogLevel.debug.rank then m.traceRecord :: trace else trace

/-- What an operation writes to the log, as far as the threshold asks for it. -/
def records (fs : Files) (threshold : LogLevel) (m : Machine) : Operation → List LogRecord
  | .load program => threshold.select (loadRecords program)
  | .loadFile path => threshold.select (loadFileRecords fs path)
  | .cycle => (watchCycles (tracer threshold) 1 m []).2.reverse
  | .tick => (m.watchTick (tracer threshold) []).2.reverse
  | .run ticks => (watchRun (tracer threshold) ticks m []).2.reverse
  | _ => []

end Machine

end ChipEight
