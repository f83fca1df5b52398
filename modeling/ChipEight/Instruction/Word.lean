import ChipEight.Layout
import ChipEight.Number.Hex
import ChipEight.Number.Nibble

/-!
# Instruction words

An instruction is a 16-bit word of four hexadecimal digits `CXYN`. The first digit selects a group
of instructions, `X` and `Y` name registers, and `N`, `NN` and `NNN` are the low 4, 8 and 12 bits.
Words are stored high byte first.
-/

namespace ChipEight

/-- An instruction word, or an address. -/
abbrev Word := UInt16

namespace Word

/-- The word that an integer stands for: its low sixteen bits. -/
def ofInt (n : Int) : Word := UInt16.ofNat (n % 0x10000).toNat

/-! ## Fields -/

/-- The first digit. -/
def group (w : Word) : Nibble := .ofNat (w.toNat / 0x1000)

/-- The second digit, a register. -/
def x (w : Word) : Nibble := .ofNat (w.toNat / 0x100)

/-- The third digit, a register. -/
def y (w : Word) : Nibble := .ofNat (w.toNat / 0x10)

/-- The last digit. -/
def n (w : Word) : Nibble := .ofNat w.toNat

/-- The low byte. -/
def nn (w : Word) : UInt8 := UInt8.ofNat (w.toNat % 0x100)

/-- The low twelve bits. -/
def nnn (w : Word) : Word := UInt16.ofNat (w.toNat % 0x1000)

/-- The four digits, the first one first. -/
def digits (w : Word) : List Nibble := [w.group, w.x, w.y, w.n]

/-- The word of four digits. -/
def ofDigits (group x y n : Nibble) : Word :=
  UInt16.ofNat (((group.val * 0x10 + x.val) * 0x10 + y.val) * 0x10 + n.val)

/-! ## Bytes -/

/-- The first of the two bytes. -/
def high (w : Word) : UInt8 := UInt8.ofNat (w.toNat / 0x100)

/-- The two bytes, high byte first. -/
def bytes (w : Word) : List UInt8 := [w.high, w.nn]

/-- The word of two bytes. -/
def ofBytes (hi lo : UInt8) : Word := UInt16.ofNat (hi.toNat * 0x100 + lo.toNat)

/-- The program image of a list of words. -/
def assemble (words : List Int) : List UInt8 := words.flatMap fun w => (ofInt w).bytes

/-- The cell that an address names: its low twelve bits. -/
def cellOf (address : Int) : Nat := (address % Layout.memorySize).toNat

/-- Reads a word from two cells that follow each other around the end of memory; `none` when one
of the two is not there. -/
def fetch? (cells : Array UInt8) (address : Int) : Option Word := do
  return ofBytes (← cells[cellOf address]?) (← cells[cellOf (address + 1)]?)

/-- How messages show a word. -/
def text (w : Word) : String := "0x" ++ Hex.upper 4 w.toNat

/-! ## Laws -/

theorem toNat_ofBytes (hi lo : UInt8) : (ofBytes hi lo).toNat = hi.toNat * 0x100 + lo.toNat := by
  have h₁ := hi.toNat_lt
  have h₂ := lo.toNat_lt
  have h : hi.toNat * 0x100 + lo.toNat < 65536 := by omega
  simp only [ofBytes, UInt16.toNat_ofNat', Nat.mod_eq_of_lt h]

theorem toNat_ofInt (n : Int) : ((ofInt n).toNat : Int) = n % 0x10000 := by
  have h : (n % 0x10000).toNat < 65536 := by omega
  simp only [ofInt, UInt16.toNat_ofNat', Nat.mod_eq_of_lt h]
  omega

theorem ofInt_eq_iff {n : Int} {w : Word} : ofInt n = w ↔ n % 0x10000 = w.toNat := by
  rw [← UInt16.toNat_inj, ← toNat_ofInt]
  omega

theorem ofInt_toNat (w : Word) : ofInt w.toNat = w := by
  have := w.toNat_lt
  rw [ofInt_eq_iff]
  omega

@[simp]
theorem ofInt_natCast (n : Nat) : ofInt n = UInt16.ofNat n := by
  rw [ofInt_eq_iff, UInt16.toNat_ofNat']
  omega

theorem toNat_nn (w : Word) : w.nn.toNat = w.toNat % 0x100 := by
  rw [nn, UInt8.toNat_ofNat']
  omega

theorem toNat_nnn (w : Word) : w.nnn.toNat = w.toNat % 0x1000 := by
  rw [nnn, UInt16.toNat_ofNat']
  omega

theorem toNat_ofDigits (group x y n : Nibble) :
    (ofDigits group x y n).toNat =
      ((group.val * 0x10 + x.val) * 0x10 + y.val) * 0x10 + n.val := by
  rw [ofDigits, UInt16.toNat_ofNat']
  exact Nat.mod_eq_of_lt (by omega)

/-- A word of four digits has these digits. -/
theorem digits_ofDigits (c x y n : Nibble) :
    (ofDigits c x y n).group = c ∧ (ofDigits c x y n).x = x ∧ (ofDigits c x y n).y = y ∧
      (ofDigits c x y n).n = n := by
  simp only [group, Word.x, Word.y, Word.n, toNat_ofDigits, Fin.ext_iff, Nibble.val_ofNat]
  omega

@[simp]
theorem group_ofDigits (c x y n : Nibble) : (ofDigits c x y n).group = c :=
  (digits_ofDigits c x y n).1

@[simp]
theorem x_ofDigits (c x y n : Nibble) : (ofDigits c x y n).x = x := (digits_ofDigits c x y n).2.1

@[simp]
theorem y_ofDigits (c x y n : Nibble) : (ofDigits c x y n).y = y := (digits_ofDigits c x y n).2.2.1

@[simp]
theorem n_ofDigits (c x y n : Nibble) : (ofDigits c x y n).n = n := (digits_ofDigits c x y n).2.2.2

end Word

/-! ## Bytes of integers -/

/-- The byte that an integer stands for: its low eight bits. -/
def byteOfInt (n : Int) : UInt8 := UInt8.ofNat (n % 0x100).toNat

theorem toNat_byteOfInt (n : Int) : ((byteOfInt n).toNat : Int) = n % 0x100 := by
  have h : (n % 0x100).toNat < 256 := by omega
  simp only [byteOfInt, UInt8.toNat_ofNat', Nat.mod_eq_of_lt h]
  omega

theorem byteOfInt_eq_iff {n : Int} {b : UInt8} : byteOfInt n = b ↔ n % 0x100 = b.toNat := by
  rw [← UInt8.toNat_inj, ← toNat_byteOfInt]
  omega

@[simp]
theorem byteOfInt_toNat (b : UInt8) : byteOfInt b.toNat = b := by
  have := b.toNat_lt
  rw [byteOfInt_eq_iff]
  omega

end ChipEight
