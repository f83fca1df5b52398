import ChipEight.Number.Hex
import ChipEight.Text.Quoted

/-!
# Errors

The classes of errors that the library reports, how they are grouped, and their wording. The types
that carry a cause, `Fault` and `LoadError`, take their messages from here.
-/

namespace ChipEight

/-- A class of errors. -/
inductive ErrorClass where
  /-- Any error of the library. -/
  | general
  /-- A program could not be loaded. -/
  | load
  | programTooLarge
  | romFile
  | unknownOpcode
  /-- A fault of the call stack. -/
  | stack
  | stackOverflow
  | stackUnderflow
  deriving DecidableEq, Repr

/-- A group of errors that a host may treat alike. -/
inductive ErrorGroup where
  | general
  | load
  | stack
  /-- A value that was given is not acceptable. -/
  | value
  /-- The running program did something that it must not do. -/
  | runtime
  /-- The operating system refused something. -/
  | system
  deriving DecidableEq, Repr

namespace ErrorGroup

def all : List ErrorGroup := [general, load, stack, value, runtime, system]

end ErrorGroup

namespace ErrorClass

/-- Is a class part of a group? -/
def isIn : ErrorClass → ErrorGroup → Bool
  | _, .general => true
  | .load, .load | .programTooLarge, .load | .romFile, .load => true
  | .load, .value | .programTooLarge, .value | .romFile, .value => true
  | .stack, .stack | .stackOverflow, .stack | .stackUnderflow, .stack => true
  | .unknownOpcode, .runtime => true
  | .stack, .runtime | .stackOverflow, .runtime | .stackUnderflow, .runtime => true
  | _, _ => false

end ErrorClass

namespace ErrorText

/-- A program is larger than the region it is loaded into. -/
def programTooLarge (size capacity : Int) : String :=
  "Program is " ++ toString size ++ " bytes, the program region holds " ++ toString capacity

/-- A path leads to no readable file. -/
def romFile (path reason : String) : String :=
  "Cannot read ROM " ++ Text.quoted path ++ ": " ++ reason

/-- A word is no instruction. -/
def unknownOpcode (word : Int) (address : Option Int) : String :=
  let place :=
    match address with
    | some a => " at 0x" ++ Hex.upperInt 3 a
    | none => ""
  "Unknown opcode 0x" ++ Hex.upperInt 4 word ++ place

/-- A call found all slots of the stack in use. -/
def stackOverflow (address : Nat) : String :=
  "Call stack full (16 entries) at PC=0x" ++ Hex.upper 3 address

/-- A return found no slot of the stack in use. -/
def stackUnderflow (address : Nat) : String :=
  "Return with empty call stack at PC=0x" ++ Hex.upper 3 address

end ErrorText

end ChipEight
