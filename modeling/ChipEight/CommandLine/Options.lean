import ChipEight.Number.Numeral
import ChipEight.Text.Quoted

/-!
# Options of the command line

The words of a command line are classified first: options, other words, and the double dash after
which no word is an option. A long option may be shortened as long as it stays the only one with
that beginning, and a value may follow its option after an equals sign or as the next word.
-/

namespace ChipEight

/-- An option. -/
inductive Flag where
  | help
  | letters
  | speed
  | config
  | ticks
  | realtime
  | press
  | seed
  | dump
  | png
  | scale
  | verbose
  deriving DecidableEq, Repr

namespace Flag

/-- How options are written. -/
def spellings : List (String × Flag) := [
  ("-h", help), ("--help", help), ("--quirks", letters), ("--speed", speed),
  ("--config", config), ("--ticks", ticks), ("--realtime", realtime), ("--press", press),
  ("--seed", seed), ("--dump", dump), ("--png", png), ("--scale", scale), ("-v", verbose),
  ("--verbose", verbose)]

/-- Does an option take a value? -/
def takesValue : Flag → Bool
  | help | realtime | dump | verbose => false
  | _ => true

/-- The spellings of an option, the shortest one first. -/
def ownSpellings (f : Flag) : List String := (spellings.filter (·.2 == f)).map (·.1)

/-- How messages name an option: all its spellings. -/
def display (f : Flag) : String := "/".intercalate f.ownSpellings

/-- The option that is written so. -/
def ofSpelling? (s : String) : Option Flag := spellings.lookup s

end Flag

/-- What a command line asks for. -/
structure Options where
  program : String
  letters : String := ""
  speed : Option Int := none
  config : Option String := none
  ticks : Int := 60
  realtime : Bool := false
  /-- Keys to hold, in the order of the command line. -/
  press : List String := []
  seed : Option Int := none
  dump : Bool := false
  png : Option String := none
  scale : Int := 8
  verbosity : Nat := 0
  deriving DecidableEq, Repr

/-- What is wrong with a command line. -/
inductive UsageError where
  | ambiguous (word : String) (spellings : List String)
  | expectedArgument (flag : Flag)
  | ignoredArgument (flag : Flag) (value : String)
  | badInteger (flag : Flag) (value : String)
  | missingProgram
  | unrecognized (words : List String)
  deriving DecidableEq, Repr

def UsageError.message : UsageError → String
  | ambiguous word spellings =>
    "ambiguous option: " ++ word ++ " could match " ++ ", ".intercalate spellings
  | expectedArgument f => "argument " ++ f.display ++ ": expected one argument"
  | ignoredArgument f v =>
    "argument " ++ f.display ++ ": ignored explicit argument " ++ Text.quoted v
  | badInteger f v => "argument " ++ f.display ++ ": invalid int value: " ++ Text.quoted v
  | missingProgram => "the following arguments are required: rom"
  | unrecognized words => "unrecognized arguments: " ++ " ".intercalate words

namespace CommandLine

/-! ## Classifying words -/

/-- What stands in the same word after an option. -/
inductive Attached where
  | nothing
  /-- A value after an equals sign. -/
  | value (text : String)
  /-- Whatever follows a short option without an equals sign. -/
  | tail (text : String)
  deriving DecidableEq, Repr

/-- A classified word. -/
inductive WordClass where
  /-- An option and what came with it. -/
  | option (flag : Flag) (attached : Attached)
  /-- It looks like an option but is none. -/
  | unknownOption
  | plain
  /-- The double dash. -/
  | separator
  deriving DecidableEq, Repr

/-- Splits at the first equals sign. -/
def splitEquals (s : List Char) : List Char × Attached :=
  match s.dropWhile (· != '=') with
  | [] => (s, .nothing)
  | _ :: value => (s.takeWhile (· != '='), .value (String.ofList value))

/-- The options that a word may be short for, with what comes with it. A word with one dash may be
a short option with more behind it. -/
def candidates (s : List Char) : List (Flag × String × Attached) :=
  match s with
  | '-' :: '-' :: _ =>
    let (name, attached) := splitEquals s
    (Flag.spellings.filter fun (spelling, _) => name.isPrefixOf spelling.toList).map
      fun (spelling, f) => (f, spelling, attached)
  | '-' :: c :: rest =>
    Flag.spellings.filterMap fun (spelling, f) =>
      if spelling.toList = ['-', c] then some (f, spelling, .tail (String.ofList rest))
      else if s.isPrefixOf spelling.toList then some (f, spelling, .nothing)
      else none
  | _ => []

/-- A negative number, whole or with a point. -/
def isNegativeNumber : List Char → Bool
  | '-' :: rest =>
    let isDigit (c : Char) : Bool := (Text.digitValue? c).isSome
    let after := rest.dropWhile isDigit
    match after with
    | [] => !rest.isEmpty
    | '.' :: fraction => !fraction.isEmpty && fraction.all isDigit
    | _ => false
  | _ => false

/-- Classifies a word before the double dash. -/
def classify (word : String) : Except UsageError WordClass :=
  let s := word.toList
  if s.head? != some '-' then .ok .plain
  else
    match Flag.ofSpelling? word with
    | some f => .ok (.option f .nothing)
    | none =>
      if s.length = 1 then .ok .plain
      else
        let (name, attached) := splitEquals s
        match attached, Flag.ofSpelling? (String.ofList name) with
        | .value _, some f => .ok (.option f attached)
        | _, _ =>
          match candidates s with
          | [(f, _, attached)] => .ok (.option f attached)
          | [] =>
            if isNegativeNumber s || s.contains ' ' then .ok .plain else .ok .unknownOption
          | many => .error (.ambiguous word (many.map (·.2.1)))

/-- Classifies all words; after the double dash all words are plain. -/
def classifyAll : List String → Except UsageError (List (String × WordClass))
  | [] => .ok []
  | "--" :: rest => .ok (("--", .separator) :: rest.map (·, .plain))
  | word :: rest => do
    let c ← classify word
    return (word, c) :: (← classifyAll rest)

/-! ## Reading options -/

/-- A command line that is partly read. -/
structure Reading where
  program : Option String := none
  options : Options := { program := "" }
  extras : List String := []
  help : Bool := false

/-- Reads the integer of an option. -/
def integer (f : Flag) (value : String) : Except UsageError Int :=
  match Numeral.parse value with
  | .ok n => .ok n
  | .error _ => .error (.badInteger f value)

/-- Applies an option with its value, which is empty when it takes none. -/
def apply (p : Reading) (f : Flag) (value : String) : Except UsageError Reading := do
  let o := p.options
  match f with
  | .help => return { p with help := true }
  | .letters => return { p with options := { o with letters := value } }
  | .speed => return { p with options := { o with speed := some (← integer f value) } }
  | .config => return { p with options := { o with config := some value } }
  | .ticks => return { p with options := { o with ticks := ← integer f value } }
  | .realtime => return { p with options := { o with realtime := true } }
  | .press => return { p with options := { o with press := o.press ++ [value] } }
  | .seed => return { p with options := { o with seed := some (← integer f value) } }
  | .dump => return { p with options := { o with dump := true } }
  | .png => return { p with options := { o with png := some value } }
  | .scale => return { p with options := { o with scale := ← integer f value } }
  | .verbose => return { p with options := { o with verbosity := o.verbosity + 1 } }

/-- The options in a word with one dash: the first one, and one for each further letter. What is
left starts with the first letter that is no option. None of them takes a value. -/
def cluster (f : Flag) : List Char → Except UsageError (List Flag × List Char)
  | [] => .ok ([f], [])
  | c :: rest =>
    if c = '-' then .error (.ignoredArgument f (String.ofList (c :: rest)))
    else
      match Flag.ofSpelling? (String.ofList ['-', c]), rest with
      | none, _ => .ok ([f], c :: rest)
      | some g, '=' :: value => .error (.ignoredArgument g (String.ofList value))
      | some g, _ => (cluster g rest).map fun (fs, left) => (f :: fs, left)

/-- Applies options that take no value. -/
def applyFlags (p : Reading) (fs : List Flag) : Except UsageError Reading :=
  fs.foldlM (fun p f => apply p f "") p

/-- Applies an option that takes no value, with what came attached to it. -/
def applyBare (p : Reading) (f : Flag) (attached : Attached) :
    Except UsageError Reading :=
  match attached with
  | .nothing => applyFlags p [f]
  | .value text => .error (.ignoredArgument f text)
  | .tail text => do
    let (fs, left) ← cluster f text.toList
    let extras := if left.isEmpty then [] else [String.ofList ('-' :: left)]
    applyFlags { p with extras := p.extras ++ extras } fs

/-- Takes the program from the front of the words after the last option: a double dash may stand
before it and after it. -/
def takeProgram (p : Reading) : List (String × WordClass) → Reading × List (String × WordClass)
  | ("--", .separator) :: (word, .plain) :: rest => ({ p with program := some word }, rest)
  | (word, .plain) :: ("--", .separator) :: rest => ({ p with program := some word }, rest)
  | (word, .plain) :: rest => ({ p with program := some word }, rest)
  | rest => (p, rest)

/-- Does a word look like an option? -/
def isOption : String × WordClass → Bool
  | (_, .option ..) | (_, .unknownOption) => true
  | _ => false

/-- Reads classified words from left to right, up to a request for help. The first plain word is
the program, further ones are not recognized. -/
def readWords (p : Reading) : List (String × WordClass) → Except UsageError Reading
  | [] => .ok p
  | (word, .unknownOption) :: rest => readWords { p with extras := p.extras ++ [word] } rest
  | (_, .option f attached) :: rest =>
    if f.takesValue then
      match attached, rest with
      | .value text, rest | .tail text, rest => do readWords (← apply p f text) rest
      | .nothing, (text, .plain) :: rest => do readWords (← apply p f text) rest
      | .nothing, _ => .error (.expectedArgument f)
    else do
      let p ← applyBare p f attached
      -- Help ends the program at once: what follows is not even looked at.
      if p.help then return p else readWords p rest
  | words@((word, _) :: rest) =>
    -- Before further options a plain word stands alone; after the last one a double dash may
    -- surround the program.
    if rest.any isOption then
      if p.program.isNone then readWords { p with program := some word } rest
      else readWords { p with extras := p.extras ++ [word] } rest
    else
      let (p, left) := if p.program.isNone then takeProgram p words else (p, words)
      .ok { p with extras := p.extras ++ left.map (·.1) }
termination_by words => words.length

/-- What a command line turned out to be. -/
inductive Command where
  | help
  | run (options : Options)
  deriving DecidableEq, Repr

/-- Reads a command line. -/
def parse (words : List String) : Except UsageError Command := do
  let classified ← classifyAll words
  let p ← readWords {} classified
  if p.help then return .help
  match p.program with
  | none => .error .missingProgram
  | some program =>
    if p.extras.isEmpty then return .run { p.options with program }
    else .error (.unrecognized p.extras)

end CommandLine

end ChipEight
