import ChipEight.Files.Basic

/-!
# Files held in memory

A flat directory of named entries, whose own directories are empty. Paths are followed component
by component, from the directory itself. A name that is too long is not looked for, and a path that
is too long is not followed at all.
-/

namespace ChipEight

/-- An entry of a directory. -/
inductive Entry where
  | file (bytes : List UInt8)
  | directory
  | faulty (fault : ReadFault)
  deriving DecidableEq, Repr

/-- Named entries; of two entries of one name the first one counts. -/
abbrev Directory := List (String × Entry)

namespace Directory

/-- Bytes of the longest name. -/
def nameLimit : Nat := 255

/-- Bytes of the longest path. -/
def pathLimit : Nat := 4095

/-- What a name leads to that no entry has. -/
def absent (name : String) : Found :=
  if nameLimit < name.utf8ByteSize then .barred .nameTooLong else .missing

/-- A place on the way along a path. -/
inductive Place where
  /-- The directory itself. -/
  | here
  /-- One of its directories, which is empty. -/
  | inside
  /-- Above the directory, where nothing is known by name. -/
  | outside
  /-- An entry that is no directory. -/
  | entry (e : Entry)

/-- Follows one component. -/
def Place.follow (d : Directory) (place : Place) (name : String) : Except Found Place :=
  match place with
  | .entry _ => .error .notDirectory
  | .here =>
    if name = "" ∨ name = "." then .ok .here
    else if name = ".." then .ok .outside
    else
      match d.lookup name with
      | some .directory => .ok .inside
      | some e => .ok (.entry e)
      | none => .error (absent name)
  | .inside =>
    if name = "" ∨ name = "." then .ok .inside
    else if name = ".." then .ok .here
    else .error (absent name)
  -- Nothing above is known by name, so there is no way back either.
  | .outside =>
    if name = "" ∨ name = "." ∨ name = ".." then .ok .outside else .error (absent name)

/-- Follows components one after the other. -/
def walk (d : Directory) : Place → List String → Except Found Place
  | place, [] => .ok place
  | place, name :: names =>
    match place.follow d name with
    | .ok next => walk d next names
    | .error e => .error e

/-- Where a path starts: above everything if it is absolute. -/
def start (path : String) : Place := if path.toList.head? = some '/' then .outside else .here

/-- What a path leads to; the empty path and a path with a NUL lead nowhere. -/
def find (d : Directory) (path : String) : Found :=
  if path = "" ∨ '\x00' ∈ path.toList then .missing
  else if pathLimit < path.utf8ByteSize then .barred .nameTooLong
  else
    match walk d (start path) (Path.components path) with
    | .error e => e
    | .ok (.entry (.file bytes)) => .file bytes
    | .ok (.entry (.faulty fault)) => .faulty fault
    | .ok _ => .directory

/-- What prevents a file from being created at a path: its directory must be there, and the path
must not lead to a directory. -/
def obstacle? (d : Directory) (path : String) : Option FileError :=
  if '\x00' ∈ path.toList then some .nul
  else if path = "" then some (.missing path)
  else if pathLimit < path.utf8ByteSize then some (.barred path .nameTooLong)
  else
    let names := Path.components path
    match walk d (start path) names.dropLast with
    | .error .notDirectory => some (.notDirectory path)
    | .error (.barred fault) => some (.barred path fault)
    | .error _ => some (.missing path)
    | .ok place =>
      match place.follow d (names.getLastD "") with
      | .error .notDirectory => some (.notDirectory path)
      | .error (.barred fault) => some (.barred path fault)
      | .error _ | .ok (.entry _) => none
      | .ok _ => some (.isDirectory path)

/-- The directory as the files of a host. -/
def files (d : Directory) : Files := ⟨d.find, d.obstacle?⟩

end Directory

end ChipEight
