import ChipEight.Files.Basic
import ChipEight.Json.Reader
import ChipEight.Json.Writer
import ChipEight.Settings.Basic
import ChipEight.Text.Utf8

/-!
# Settings as documents

Settings are kept as a JSON object with one member for each setting. Members may be missing, which
leaves a setting at its default, but all names must be known. `Settings.save` writes the text of a
document and `Settings.load` reads it from a file.
-/

namespace ChipEight.Settings

/-- Why settings cannot be built. -/
inductive Error where
  /-- These names belong to no setting; they are in order. -/
  | unknownNames (names : List String)
  /-- The value has no members that could be settings. -/
  | notObject
  | cycles (e : CyclesError)
  | file (e : FileError)
  | encoding (e : Text.Utf8Error)
  | json (e : Json.ReadError)
  deriving DecidableEq, Repr

def Error.message : Error → String
  | unknownNames names => "Unknown settings: " ++ ", ".intercalate names
  | notObject => "settings must be an object with known names"
  | cycles e => e.message
  | file e => e.message
  | encoding e => e.message
  | json e => e.message

/-- Is this the name of a setting? -/
def isKnown (name : String) : Bool := name == cyclesName || (Switch.ofName? name).isSome

/-- The names that belong to no setting, each once, in the order of their characters. -/
def unknownNames (names : List String) : List String :=
  (names.filter (!isKnown ·)).eraseDups.mergeSort fun a b => !decide (b < a)

/-- Settings with the values of some members, the others at their defaults. The number of
instructions in a tick is the only value that can be refused. -/
def ofKnownMembers (members : List (String × Json)) : Except Error Settings :=
  let value (q : Switch) : Json := (Json.lookup? members q.name).getD (.bool false)
  let s : Settings :=
    { standard with
      vfReset := value .vfReset, memory := value .memory, shifting := value .shifting,
      jumping := value .jumping, indexOverflow := value .indexOverflow }
  match Json.lookup? members cyclesName with
  | none => .ok s
  | some v =>
    match integerOf v with
    | .ok n => .ok (s.withCycles n)
    | .error e => .error (.cycles e)

/-- Settings from members, all of which must be known; unknown ones are not named. -/
def ofMembers (members : List (String × Json)) : Except Error Settings :=
  if members.all (isKnown ·.1) then ofKnownMembers members else .error .notObject

/-- The names in a value that is asked for settings: those of the members of an object, the texts
in a list, the characters of a text. Other values have none, and a list must hold texts only. -/
def namesIn? : Json → Option (List String)
  | .obj members => some (members.map (·.1))
  | .arr items => items.mapM fun
    | .str s => some s
    | _ => none
  | .str s => some (s.toList.map String.singleton)
  | _ => none

/-- Settings from a value. Unknown names are reported before anything else, also in a value that
is no object. -/
def ofJson (v : Json) : Except Error Settings :=
  match namesIn? v with
  | none => .error .notObject
  | some names =>
    match unknownNames names with
    | [] =>
      match v with
      | .obj members => ofKnownMembers members
      | _ => .error .notObject
    | unknown => .error (.unknownNames unknown)

/-- The document of settings. -/
def toJson (s : Settings) : Json := .obj s.fields

/-- The text of the document. -/
def save (s : Settings) : String := s.toJson.pretty

/-- Settings from the text of a document. -/
def ofText (text : String) : Except Error Settings :=
  match Json.read text with
  | .ok v => ofJson v
  | .error e => .error (.json e)

/-- Ends every line with a line feed alone. -/
def unifyLineEnds : List Char → List Char
  | '\r' :: '\n' :: rest => '\n' :: unifyLineEnds rest
  | '\r' :: rest => '\n' :: unifyLineEnds rest
  | c :: rest => c :: unifyLineEnds rest
  | [] => []

/-- Settings from the bytes of a document. All kinds of line ends count as one character. -/
def ofBytes (bytes : List UInt8) : Except Error Settings :=
  match Text.decodeUtf8 bytes with
  | .ok text => ofText (String.ofList (unifyLineEnds text.toList))
  | .error e => .error (.encoding e)

/-- Settings from a file. -/
def load (fs : Files) (path : String) : Except Error Settings :=
  match fs.read path with
  | .ok bytes => ofBytes bytes
  | .error e => .error (.file e)

end ChipEight.Settings
