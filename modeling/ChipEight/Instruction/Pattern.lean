import ChipEight.Instruction.Op
import ChipEight.Instruction.Word

/-!
# Patterns

What a pattern says about a word, independently of `decode`. A pattern is four slots: a fixed
digit, or any digit. The slots are read off the pattern's text; three patterns are laxer than
their text, see `Op.slots`.
-/

namespace ChipEight

/-- One slot of a pattern: a fixed digit, or `none` for any digit. -/
abbrev Slot := Option (Nibble)

/-- The slot that a character of a pattern stands for; `none` when it stands for nothing, so that
a pattern with such a character matches no word. -/
def slotOf? (c : Char) : Option Slot :=
  if c = 'X' ∨ c = 'Y' ∨ c = 'N' then some none
  else (Hex.digit? c).bind fun d => if h : d < 16 then some (some ⟨d, h⟩) else none

/-- Does a digit fill a slot? -/
def Slot.accepts (s : Slot) (d : Nibble) : Bool :=
  match s with
  | none => true
  | some e => d == e

namespace Op

/-- The slots whose digit is not compared although the pattern names one: the second digit of the
two patterns of group 0, and the last digit of the two register comparisons. -/
def relaxed : Op → Nat → Bool
  | .clear, 1 | .ret, 1 | .skipEqReg, 3 | .skipNeReg, 3 => true
  | _, _ => false

/-- The slots of an instruction; `none` for `unknown`, whose pattern is no pattern. -/
def slots (op : Op) : Option (List Slot) :=
  (op.pattern.toList.mapM slotOf?).map fun ss =>
    ss.mapIdx fun k s => if op.relaxed k then none else s

/-- Does the word match the pattern of the instruction? -/
def Matches (op : Op) (w : Word) : Bool :=
  match op.slots with
  | none => false
  | some ss => (ss.zip w.digits).all fun (s, d) => s.accepts d

end Op

end ChipEight
