/-!
# Hexadecimal digits

A digit of four bits. It names a general register, a key, or a place in an instruction word.
-/

namespace ChipEight

/-- A hexadecimal digit. -/
abbrev Nibble := Fin 16

namespace Nibble

/-- The bound of a digit, by a name of its own. -/
theorem val_lt (d : Nibble) : d.val < 16 := d.isLt

theorem mod_lt (n : Nat) : n % 16 < 16 := Nat.mod_lt n (by decide)

/-- The last digit of a natural number. -/
def ofNat (n : Nat) : Nibble := ⟨n % 16, mod_lt n⟩

/-- The last digit of an integer, in two's complement. -/
def ofInt (n : Int) : Nibble := ofNat (n % 16).toNat

@[simp]
theorem val_ofNat (n : Nat) : (ofNat n).val = n % 16 := rfl

theorem val_ofInt (n : Int) : ((ofInt n).val : Int) = n % 16 := by
  simp only [ofInt, val_ofNat]
  omega

@[simp]
theorem ofNat_val (d : Nibble) : ofNat d.val = d := Fin.ext (Nat.mod_eq_of_lt d.isLt)

end Nibble

end ChipEight
