/-!
# Instructions

The instructions of the machine. Each has a pattern of four characters: a digit stands for itself,
`X` and `Y` for a register, `N` for any digit of a number.
-/

namespace ChipEight

/-- An instruction, or `unknown` for a word that is none. -/
inductive Op where
  | clear
  | ret
  | jump
  | call
  | skipEqByte
  | skipNeByte
  | skipEqReg
  | loadByte
  | addByte
  | move
  | or
  | and
  | xor
  | add
  | sub
  | shiftRight
  | subFrom
  | shiftLeft
  | skipNeReg
  | loadIndex
  | jumpOffset
  | random
  | draw
  | skipKey
  | skipNoKey
  | readDelay
  | awaitKey
  | setDelay
  | setSound
  | addIndex
  | glyph
  | decimal
  | store
  | load
  | unknown
  deriving DecidableEq, Repr, Inhabited

namespace Op

/-- All instructions in the order of their patterns, `unknown` last. -/
def all : List Op := [
  clear, ret, jump, call, skipEqByte, skipNeByte, skipEqReg, loadByte, addByte, move, or, and,
  xor, add, sub, shiftRight, subFrom, shiftLeft, skipNeReg, loadIndex, jumpOffset, random, draw,
  skipKey, skipNoKey, readDelay, awaitKey, setDelay, setSound, addIndex, glyph, decimal, store,
  load, unknown]

/-- The pattern of an instruction. -/
def pattern : Op → String
  | clear => "00E0"
  | ret => "00EE"
  | jump => "1NNN"
  | call => "2NNN"
  | skipEqByte => "3XNN"
  | skipNeByte => "4XNN"
  | skipEqReg => "5XY0"
  | loadByte => "6XNN"
  | addByte => "7XNN"
  | move => "8XY0"
  | or => "8XY1"
  | and => "8XY2"
  | xor => "8XY3"
  | add => "8XY4"
  | sub => "8XY5"
  | shiftRight => "8XY6"
  | subFrom => "8XY7"
  | shiftLeft => "8XYE"
  | skipNeReg => "9XY0"
  | loadIndex => "ANNN"
  | jumpOffset => "BNNN"
  | random => "CXNN"
  | draw => "DXYN"
  | skipKey => "EX9E"
  | skipNoKey => "EXA1"
  | readDelay => "FX07"
  | awaitKey => "FX0A"
  | setDelay => "FX15"
  | setSound => "FX18"
  | addIndex => "FX1E"
  | glyph => "FX29"
  | decimal => "FX33"
  | store => "FX55"
  | load => "FX65"
  | unknown => "????"

/-- The assembler name of an instruction. -/
def mnemonic : Op → String
  | clear => "CLS"
  | ret => "RET"
  | jump => "JP"
  | call => "CALL"
  | skipEqByte => "SE_VX_NN"
  | skipNeByte => "SNE_VX_NN"
  | skipEqReg => "SE_VX_VY"
  | loadByte => "LD_VX_NN"
  | addByte => "ADD_VX_NN"
  | move => "LD_VX_VY"
  | or => "OR"
  | and => "AND"
  | xor => "XOR"
  | add => "ADD_VX_VY"
  | sub => "SUB"
  | shiftRight => "SHR"
  | subFrom => "SUBN"
  | shiftLeft => "SHL"
  | skipNeReg => "SNE_VX_VY"
  | loadIndex => "LD_I"
  | jumpOffset => "JP_V0"
  | random => "RND"
  | draw => "DRW"
  | skipKey => "SKP"
  | skipNoKey => "SKNP"
  | readDelay => "LD_VX_DT"
  | awaitKey => "LD_VX_K"
  | setDelay => "LD_DT"
  | setSound => "LD_ST"
  | addIndex => "ADD_I"
  | glyph => "LD_F"
  | decimal => "LD_B"
  | store => "LD_I_VX"
  | load => "LD_VX_I"
  | unknown => "UNKNOWN"

/-- The instruction with an assembler name. -/
def ofMnemonic? (name : String) : Option Op := all.find? (·.mnemonic == name)

theorem mem_all (op : Op) : op ∈ all := by cases op <;> decide

end Op

end ChipEight
