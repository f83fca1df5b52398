import ChipEight.Text.Quoted

/-!
# Files

What a host says about its files: what a path leads to, and whether a file can be created there.
-/

namespace ChipEight

/-- Why reading a file broke off: the number of the cause, if there is one, and its text. -/
structure ReadFault where
  code : Option Int
  reason : String
  deriving DecidableEq, Repr

/-- The full text of a fault. -/
def ReadFault.text (f : ReadFault) : String :=
  match f.code with
  | some n => "[Errno " ++ toString n ++ "] " ++ f.reason
  | none => f.reason

/-- The reason of a fault, or its full text when there is no separate reason. -/
def ReadFault.summary (f : ReadFault) : String :=
  if f.code.isSome && f.reason != "" then f.reason else f.text

/-- The full text of a fault that concerns a path. -/
def ReadFault.textAt (f : ReadFault) (path : String) : String :=
  f.text ++ ": " ++ Text.quoted path

/-- A path, or a name in it, is longer than the system allows. -/
def ReadFault.nameTooLong : ReadFault := ⟨some 36, "File name too long"⟩

/-- What a path leads to. -/
inductive Found where
  | missing
  /-- A component that is no directory is used as one. -/
  | notDirectory
  | directory
  | file (bytes : List UInt8)
  /-- A regular file that cannot be read. -/
  | faulty (fault : ReadFault)
  /-- The path cannot even be followed. -/
  | barred (fault : ReadFault)
  deriving DecidableEq, Repr

/-- Why a file cannot be opened. -/
inductive FileError where
  | missing (path : String)
  | notDirectory (path : String)
  | isDirectory (path : String)
  | faulty (fault : ReadFault)
  | barred (path : String) (fault : ReadFault)
  /-- The path holds a NUL character. -/
  | nul
  deriving DecidableEq, Repr

def FileError.message : FileError → String
  | missing path => "[Errno 2] No such file or directory: " ++ Text.quoted path
  | notDirectory path => "[Errno 20] Not a directory: " ++ Text.quoted path
  | isDirectory path => "[Errno 21] Is a directory: " ++ Text.quoted path
  | faulty fault => fault.text
  | barred path fault => fault.textAt path
  | nul => "embedded null byte"

/-- The files of a host. -/
structure Files where
  /-- What a path leads to. -/
  find : String → Found
  /-- What prevents a file from being created at a path, if anything does. -/
  obstacle? : String → Option FileError

namespace Files

/-- Reads a whole file. -/
def read (fs : Files) (path : String) : Except FileError (List UInt8) :=
  if '\x00' ∈ path.toList then .error .nul
  else
    match fs.find path with
    | .missing => .error (.missing path)
    | .notDirectory => .error (.notDirectory path)
    | .directory => .error (.isDirectory path)
    | .file bytes => .ok bytes
    | .faulty fault => .error (.faulty fault)
    | .barred fault => .error (.barred path fault)

end Files

/-! ## Paths -/

namespace Path

/-- The components of a path; a leading or a double slash leaves an empty one. -/
def components (path : String) : List String := (path.toList.splitOn '/').map String.ofList

/-- A path without empty components and single dots. An absolute path stays absolute; nothing at
all is the current directory. -/
def normalise (path : String) : String :=
  let cs := path.toList
  let slashes := (cs.takeWhile (· == '/')).length
  let root := if slashes = 0 then "" else if slashes = 2 then "//" else "/"
  let names := (components path).filter fun c => c != "" && c != "."
  let whole := root ++ "/".intercalate names
  if whole = "" then "." else whole

end Path

end ChipEight
