import ChipEight.Error
import ChipEight.Instruction.Word

/-!
# Faults

What can stop a running program: a word that is no instruction, a call with a full stack, a return
with an empty one. Each fault carries the address of the instruction that caused it.
-/

namespace ChipEight

/-- Why a cycle cannot be carried out. -/
inductive Fault where
  | unknownOpcode (word address : Word)
  | stackOverflow (address : Word)
  | stackUnderflow (address : Word)
  deriving DecidableEq, Repr

namespace Fault

def errorClass : Fault → ErrorClass
  | unknownOpcode .. => .unknownOpcode
  | stackOverflow _ => .stackOverflow
  | stackUnderflow _ => .stackUnderflow

def message : Fault → String
  | unknownOpcode w a => ErrorText.unknownOpcode w.toNat (some a.toNat)
  | stackOverflow a => ErrorText.stackOverflow a.toNat
  | stackUnderflow a => ErrorText.stackUnderflow a.toNat

end Fault

end ChipEight
