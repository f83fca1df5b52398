import ChipEight.Files.Basic
import ChipEight.Machine.Fault
import ChipEight.Machine.State

/-!
# Loading programs

A program is copied to the program region of memory if it fits. Loading changes nothing but
memory, and a program that is refused changes nothing at all.
-/

namespace ChipEight

/-- Why a program cannot be loaded. -/
inductive LoadError where
  /-- The program is larger than the program region. -/
  | tooLarge (size : Nat)
  /-- The path leads to no regular file. -/
  | notFound (path : String)
  /-- The file cannot be read. -/
  | unreadable (path : String) (fault : ReadFault)
  /-- The path cannot be followed. -/
  | barred (path : String) (fault : ReadFault)
  deriving DecidableEq, Repr

namespace LoadError

/-- The class of an error. That a path cannot be followed is said by the system itself, and by no
error of the library. -/
def errorClass? : LoadError → Option ErrorClass
  | tooLarge _ => some .programTooLarge
  | notFound _ | unreadable .. => some .romFile
  | barred .. => none

def message : LoadError → String
  | tooLarge size => ErrorText.programTooLarge size Layout.programCapacity
  | notFound path => ErrorText.romFile path "not found"
  | unreadable path fault => ErrorText.romFile path fault.summary
  | barred path fault => fault.textAt path

end LoadError

namespace Machine

/-- Copies a program into memory. -/
def loadProgram (m : Machine) (program : List UInt8) : Except LoadError Machine :=
  if Layout.programCapacity < program.length then .error (.tooLarge program.length)
  else
    .ok { m with memory := m.memory.writeAll (UInt16.ofNat Layout.programStart) program }

/-- The bytes of a program file. Its path is taken in normal form. -/
def readProgram (fs : Files) (path : String) : Except LoadError (List UInt8) :=
  let path := Path.normalise path
  match fs.find path with
  | .file bytes => .ok bytes
  | .faulty fault => .error (.unreadable path fault)
  | .barred fault => .error (.barred path fault)
  | _ => .error (.notFound path)

/-- Loads a program from a file. -/
def loadFile (m : Machine) (fs : Files) (path : String) : Except LoadError Machine :=
  match readProgram fs path with
  | .ok program => m.loadProgram program
  | .error e => .error e

end Machine

end ChipEight
