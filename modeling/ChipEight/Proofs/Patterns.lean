import ChipEight.Instruction.Decode
import ChipEight.Instruction.Pattern
import ChipEight.Proofs.Texts
import Mathlib

/-!
# Words and patterns

There are two accounts of which word is which instruction: `decode` goes by groups and looks at as few
digits as it needs, and every instruction has a pattern of four characters that can be held against the
text of a word (`Op.Fits`). They say the same of all words (`decode_exact`): a word decodes to the
instruction whose pattern it fits, no word fits two patterns, and what fits none is no instruction.
-/

namespace ChipEight

namespace Word

/-- The low byte is the last two digits. -/
theorem nn_eq_iff (w : Word) (b : UInt8) :
    w.nn = b ↔ w.y.val = b.toNat / 16 ∧ w.n.val = b.toNat % 16 := by
  have hb := b.toNat_lt
  rw [← UInt8.toNat_inj, toNat_nn, y, n, Nibble.val_ofNat, Nibble.val_ofNat]
  omega

/-- The text of a word shows its digits. -/
theorem toList_upper (w : Word) :
    (Hex.upper 4 w.toNat).toList = w.digits.map fun d => Hex.capital d.val := by
  have hfirst : w.toNat / 0x1000 % 16 = w.toNat / 0x1000 := by
    have hw := w.toNat_lt
    omega
  rw [Hex.toList_upper_four w.toNat_lt]
  simp [digits, group, x, y, n, hfirst]

/-- The four digits of the word that an integer stands for, as text. -/
def digitsOf (k : Int) : List Char := (Hex.upper 4 (k % 0x10000).toNat).toList

theorem digitsOf_eq (k : Int) : digitsOf k = (Hex.upper 4 (ofInt k).toNat).toList := by
  rw [digitsOf, ← toNat_ofInt, Int.toNat_natCast]

end Word

namespace Op

/-! ## Patterns as texts -/

/-- Does a pattern admit a character at a place? A letter for a register or a number admits every one,
any other character only itself, and at a place that is not compared every one is admitted. -/
def admits (op : Op) (k : Nat) (c : Char) : Bool :=
  op.relaxed k || op.pattern.toList[k]?.any fun p => p ∈ ['X', 'Y', 'N'] || p == c

/-- Does a text of digits fit the pattern of an instruction, character by character? -/
def Fits (op : Op) (text : List Char) : Prop :=
  text.length = op.pattern.length ∧ ∀ k c, text[k]? = some c → op.admits k c = true

/-- Does the slot at a place of a pattern accept a digit? -/
def accepts (op : Op) (k : Nat) (d : Nibble) : Bool :=
  match op.pattern.toList[k]?.bind slotOf? with
  | some s => op.relaxed k || s.accepts d
  | none => false

theorem exists_pattern (op : Op) : ∃ a b c d, op.pattern.toList = [a, b, c, d] := by
  cases op <;> exact ⟨_, _, _, _, rfl⟩

theorem matches_eq (op : Op) (w : Word) :
    op.Matches w =
      (op.accepts 0 w.group && op.accepts 1 w.x && op.accepts 2 w.y && op.accepts 3 w.n) := by
  have hslot (k : Nat) (s : Slot) (d : Nibble) :
      Slot.accepts (if op.relaxed k then none else s) d = (op.relaxed k || s.accepts d) := by
    cases op.relaxed k <;> rfl
  obtain ⟨a, b, c, d, hpattern⟩ := op.exists_pattern
  simp only [Matches, slots, accepts, hpattern, List.mapM_cons, List.mapM_nil, Word.digits]
  -- A pattern with a character that stands for nothing has no slots at all.
  cases ha : slotOf? a <;> cases hb : slotOf? b <;> cases hc : slotOf? c <;>
    cases hd : slotOf? d <;> simp [ha, hb, hc, hd, hslot, Bool.and_assoc]

theorem accepts_eq_admits (op : Op) {k : Nat} (hk : k < 4) (d : Nibble) :
    op.accepts k d = op.admits k (Hex.capital d) := by
  have hall : ∀ op ∈ all, ∀ k < 4, ∀ d : Nibble,
      op.accepts k d = op.admits k (Hex.capital d) := by decide +kernel
  exact hall op op.mem_all k hk d

/-- Besides the letters of the patterns, four places admit every digit. -/
theorem admits_all_iff (op : Op) {k : Nat} (hk : k < 4) :
    (∀ d : Nibble, op.admits k (Hex.capital d) = true) ↔
      op.pattern.toList[k]? ∈ [some 'X', some 'Y', some 'N'] ∨
        (op, k) ∈ [(clear, 1), (ret, 1), (skipEqReg, 3), (skipNeReg, 3)] := by
  have hall : ∀ op ∈ all, ∀ k < 4, (∀ d : Nibble, op.admits k (Hex.capital d) = true) ↔
      op.pattern.toList[k]? ∈ [some 'X', some 'Y', some 'N'] ∨
        (op, k) ∈ [(clear, 1), (ret, 1), (skipEqReg, 3), (skipNeReg, 3)] := by decide +kernel
  exact hall op op.mem_all k hk

/-- A word matches a pattern if its text fits it. -/
theorem matches_iff_fits (op : Op) (w : Word) :
    op.Matches w = true ↔ op.Fits (Hex.upper 4 w.toNat).toList := by
  have hlength : op.pattern.length = 4 := by
    obtain ⟨a, b, c, d, hpattern⟩ := op.exists_pattern
    rw [← String.length_toList, hpattern]
    rfl
  rw [matches_eq, w.toList_upper, Fits, hlength, accepts_eq_admits op (by decide),
    accepts_eq_admits op (by decide), accepts_eq_admits op (by decide),
    accepts_eq_admits op (by decide)]
  simp only [Bool.and_eq_true]
  constructor
  · rintro ⟨⟨⟨hgroup, hx⟩, hy⟩, hn⟩
    refine ⟨rfl, ?_⟩
    intro k c hk
    match k with
    | 0 => cases hk; exact hgroup
    | 1 => cases hk; exact hx
    | 2 => cases hk; exact hy
    | 3 => cases hk; exact hn
    | k + 4 => cases hk
  · rintro ⟨-, h⟩
    exact ⟨⟨⟨h 0 _ rfl, h 1 _ rfl⟩, h 2 _ rfl⟩, h 3 _ rfl⟩

/-! ## Patterns and groups -/

section

-- What a pattern asks of the digits of a word is worked out from its text.
attribute [local simp] matches_eq accepts relaxed slotOf? pattern Slot.accepts Hex.digit?

variable {op : Op} {w : Word}

/-- A pattern leads `decode` to its instruction: the digits that it fixes are those that `decode` looks
at. -/
theorem decode_of_matches (h : op.Matches w = true) : decode w = op := by
  cases op <;> simp at h <;>
    simp [decode, decodeSystem, decodeArithmetic, decodeKey, decodeDevice, Word.nn_eq_iff, h]

section

variable (hop : op ≠ .unknown)
include hop

theorem matches_of_decodeSystem (hgroup : w.group = 0x0) (h : decodeSystem w.nn = op) :
    op.Matches w = true := by
  unfold decodeSystem at h
  split_ifs at h with hnn hnn
  case neg => exact absurd h.symm hop
  all_goals
    subst h
    rw [Word.nn_eq_iff] at hnn
    simp [Fin.ext_iff, hgroup, hnn]

theorem matches_of_decodeArithmetic (hgroup : w.group = 0x8) (h : decodeArithmetic w.n = op) :
    op.Matches w = true := by
  unfold decodeArithmetic at h
  split at h
  case h_10 => exact absurd h.symm hop
  all_goals
    rename_i hn
    subst h
    simp [hgroup, hn]

theorem matches_of_decodeKey (hgroup : w.group = 0xE) (h : decodeKey w.nn = op) :
    op.Matches w = true := by
  unfold decodeKey at h
  split_ifs at h with hnn hnn
  case neg => exact absurd h.symm hop
  all_goals
    subst h
    rw [Word.nn_eq_iff] at hnn
    simp [Fin.ext_iff, hgroup, hnn]

theorem matches_of_decodeDevice (hgroup : w.group = 0xF) (h : decodeDevice w.nn = op) :
    op.Matches w = true := by
  unfold decodeDevice at h
  split_ifs at h with hnn hnn hnn hnn hnn hnn hnn hnn hnn
  case neg => exact absurd h.symm hop
  all_goals
    subst h
    rw [Word.nn_eq_iff] at hnn
    simp [Fin.ext_iff, hgroup, hnn]

/-- What `decode` looks at is all that the pattern of its answer asks for. -/
theorem matches_of_decode (h : decode w = op) : op.Matches w = true := by
  unfold decode at h
  split at h
  case h_1 hgroup => exact matches_of_decodeSystem hop hgroup h
  case h_9 hgroup => exact matches_of_decodeArithmetic hop hgroup h
  case h_15 hgroup => exact matches_of_decodeKey hop hgroup h
  case h_16 =>
    have hgroup : w.group = 0xF := by grind
    exact matches_of_decodeDevice hop hgroup h
  -- In the other groups the first digit is all that is fixed.
  all_goals
    rename_i hgroup
    subst h
    simp [hgroup]

end

theorem not_matches_unknown (w : Word) : Matches .unknown w = false := by
  simp

theorem matches_iff : op.Matches w = true ↔ decode w = op ∧ op ≠ .unknown := by
  constructor
  · intro h
    refine ⟨decode_of_matches h, ?_⟩
    rintro rfl
    rw [not_matches_unknown] at h
    cases h
  · rintro ⟨h, hop⟩
    exact matches_of_decode hop h

end

end Op

/-- Let an integer of any size be taken for a word, and hold the four digits of the word as text against
the patterns. Taking the word for an integer again makes no difference. The word decodes to an
instruction if and only if it fits the pattern of the instruction, it fits no two patterns, and it
decodes to none if and only if it fits none. A place of a pattern admits every digit if and only if it
has one of the three letters, or is the second one in group 0 or the last one of a comparison of two
registers. -/
theorem decode_exact (k : Int) :
    decode (.ofInt (Word.ofInt k).toNat) = decode (.ofInt k) ∧
    (∀ op : Op, op.Fits (Word.digitsOf k) ↔ decode (.ofInt k) = op ∧ op ≠ .unknown) ∧
    (∀ op op' : Op, op.Fits (Word.digitsOf k) → op'.Fits (Word.digitsOf k) → op = op') ∧
    (decode (.ofInt k) = .unknown ↔ ∀ op : Op, ¬op.Fits (Word.digitsOf k)) ∧
    ∀ op : Op, ∀ place < 4, (∀ d : Nibble, op.admits place (Hex.capital d) = true) ↔
      op.pattern.toList[place]? ∈ [some 'X', some 'Y', some 'N'] ∨
        (op, place) ∈ [(.clear, 1), (.ret, 1), (.skipEqReg, 3), (.skipNeReg, 3)] := by
  have hfits (op : Op) :
      op.Fits (Word.digitsOf k) ↔ decode (.ofInt k) = op ∧ op ≠ .unknown := by
    rw [Word.digitsOf_eq, ← op.matches_iff_fits, Op.matches_iff]
  refine ⟨by rw [Word.ofInt_toNat], hfits, ?_, ?_, fun op _ hplace => op.admits_all_iff hplace⟩
  · intro op op' h h'
    exact ((hfits op).mp h).1.symm.trans ((hfits op').mp h').1
  · constructor
    · intro hunknown op h
      obtain ⟨hop, hne⟩ := (hfits op).mp h
      exact hne (hop.symm.trans hunknown)
    · intro hnone
      by_contra hop
      exact hnone (decode (.ofInt k)) ((hfits _).mpr ⟨rfl, hop⟩)

/-- A comparison of registers whose last digit is not 0, given as a negative number. -/
theorem decode_exact_relaxed :
    decode (.ofInt (0x5AB7 - 0x20000)) = .skipEqReg ∧
      ∀ op : Op, op.Fits ['5', 'A', 'B', '7'] → op = .skipEqReg := by
  have hdigits : Word.digitsOf (0x5AB7 - 0x20000) = ['5', 'A', 'B', '7'] := by decide
  obtain ⟨-, hfits, hunique, -, -⟩ := decode_exact (0x5AB7 - 0x20000)
  rw [hdigits] at hfits hunique
  have hop : decode (.ofInt (0x5AB7 - 0x20000)) = .skipEqReg := by decide
  refine ⟨hop, fun op h => ?_⟩
  exact hunique op .skipEqReg h ((hfits .skipEqReg).mpr ⟨hop, by decide⟩)

end ChipEight
