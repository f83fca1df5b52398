import ChipEight.Instruction.Op
import ChipEight.Instruction.Word

/-!
# Decoding

`decode` classifies an instruction word by its first digit and, in four groups, by its last digit
or low byte. It never fails: a word that is no instruction is `unknown`. The last digit of the two
register comparisons and the second digit of group 0 are not looked at.
-/

namespace ChipEight

/-- Group 0, by low byte. -/
def decodeSystem (nn : UInt8) : Op :=
  if nn = 0xE0 then .clear else if nn = 0xEE then .ret else .unknown

/-- Group 8, by last digit. -/
def decodeArithmetic (n : Nibble) : Op :=
  match n with
  | 0x0 => .move
  | 0x1 => .or
  | 0x2 => .and
  | 0x3 => .xor
  | 0x4 => .add
  | 0x5 => .sub
  | 0x6 => .shiftRight
  | 0x7 => .subFrom
  | 0xE => .shiftLeft
  | _ => .unknown

/-- Group E, by low byte. -/
def decodeKey (nn : UInt8) : Op :=
  if nn = 0x9E then .skipKey else if nn = 0xA1 then .skipNoKey else .unknown

/-- Group F, by low byte. -/
def decodeDevice (nn : UInt8) : Op :=
  if nn = 0x07 then .readDelay
  else if nn = 0x0A then .awaitKey
  else if nn = 0x15 then .setDelay
  else if nn = 0x18 then .setSound
  else if nn = 0x1E then .addIndex
  else if nn = 0x29 then .glyph
  else if nn = 0x33 then .decimal
  else if nn = 0x55 then .store
  else if nn = 0x65 then .load
  else .unknown

/-- The instruction of a word. -/
def decode (w : Word) : Op :=
  match w.group with
  | 0x0 => decodeSystem w.nn
  | 0x1 => .jump
  | 0x2 => .call
  | 0x3 => .skipEqByte
  | 0x4 => .skipNeByte
  | 0x5 => .skipEqReg
  | 0x6 => .loadByte
  | 0x7 => .addByte
  | 0x8 => decodeArithmetic w.n
  | 0x9 => .skipNeReg
  | 0xA => .loadIndex
  | 0xB => .jumpOffset
  | 0xC => .random
  | 0xD => .draw
  | 0xE => decodeKey w.nn
  | _ => decodeDevice w.nn

end ChipEight
