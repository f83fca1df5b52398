import ChipEight.Settings.Speed
import Mathlib.Data.NNRat.Floor
import Mathlib.Tactic

/-!
# Speeds in double precision

The number of instructions in a tick is the ceiling of a quotient that was rounded to a double first.
Rounding moves a quotient by half a unit of its last place at most (`Binary64.exists_value?_ofQuotient`),
while a fraction of denominator `den` is at least `1 / den` above the integer below it. As long as half
a unit is less than that, no quotient falls onto an integer and the ceiling is the exact one
(`Binary64.ceil_ofQuotient`). For the speeds this holds up to `60 * 2 ^ 48` (`cyclesForSpeed_exact`).
-/

namespace ChipEight

namespace Binary64

/-! ## Values -/

/-- The number that a finite double stands for. -/
def value? : Binary64 → Option ℚ
  | finite s m e => some (signed s m * 2 ^ e)
  | _ => none

theorem signed_mul (s : Bool) (m n : Nat) : signed s (m * n) = signed s m * n := by
  cases s <;> simp [signed]

/-- The least integer that is not smaller than a double is the one for its value. -/
theorem ceil_of_value? {x : Binary64} {v : ℚ} (h : x.value? = some v) : x.ceil = some ⌈v⌉ := by
  cases x with
  | infinite s | nan s => cases h
  | finite s m e =>
    cases h
    rw [ceil, Option.some.injEq]
    rcases le_or_gt 0 e with he | he
    · obtain ⟨k, rfl⟩ := Int.eq_ofNat_of_zero_le he
      have hvalue : (signed s m : ℚ) * 2 ^ (k : ℤ) = (signed s (m * 2 ^ k) : ℤ) := by
        rw [signed_mul]
        push_cast
        rw [zpow_natCast]
      rw [if_pos he, hvalue, Int.ceil_intCast, Nat.shiftLeft_eq]
      rfl
    · obtain ⟨k, rfl⟩ := Int.exists_eq_neg_ofNat he.le
      have hvalue : (signed s m : ℚ) * 2 ^ (-(k : ℤ)) = -(((-signed s m : ℤ) : ℚ) / (2 ^ k : ℕ)) := by
        rw [zpow_neg, zpow_natCast]
        push_cast
        ring
      have hk : (- -(k : ℤ)).toNat = k := by omega
      rw [if_neg (by omega), hvalue, Int.ceil_neg, Rat.floor_intCast_div_natCast, hk,
        Int.shiftRight_eq_div_pow]

/-! ## Rounding to an integer -/

theorem roundDiv_bounds (num : Nat) {den : Nat} (hden : 0 < den) :
    2 * num ≤ 2 * (roundDiv num den * den) + den ∧
      2 * (roundDiv num den * den) ≤ 2 * num + den := by
  have hsum : den * (num / den) + num % den = num := Nat.div_add_mod num den
  have hrest : num % den < den := Nat.mod_lt num hden
  have hcomm : num / den * den = den * (num / den) := Nat.mul_comm ..
  simp only [roundDiv]
  split
  · have hsucc : (num / den + 1) * den = den * (num / den) + den := by ring
    omega
  · omega

/-- The error is at most one half. -/
theorem abs_roundDiv_sub_le (num : Nat) {den : Nat} (hden : 0 < den) :
    |(roundDiv num den : ℚ) - num / den| ≤ 1 / 2 := by
  obtain ⟨hlow, hhigh⟩ := roundDiv_bounds num hden
  have hden' : (0 : ℚ) < den := Nat.cast_pos.mpr hden
  have hlow' : 2 * (num : ℚ) ≤ 2 * (roundDiv num den * den) + den := by exact_mod_cast hlow
  have hhigh' : 2 * (roundDiv num den * den : ℚ) ≤ 2 * num + den := by exact_mod_cast hhigh
  have hdiff : (roundDiv num den : ℚ) - num / den = (roundDiv num den * den - num) / den := by
    field_simp
  rw [hdiff, abs_div, abs_of_pos hden', div_le_iff₀ hden', abs_le]
  constructor <;> linarith

/-! ## The unit of a quotient -/

theorem scaled_snd_pos (num : Nat) {den : Nat} (hden : 0 < den) (e : Int) :
    0 < (scaled num den e).2 := by
  rw [scaled]
  split
  · rw [Nat.shiftLeft_eq]
    positivity
  · exact hden

theorem scaled_eq (num den : Nat) (e : Int) :
    ((scaled num den e).1 : ℚ) / (scaled num den e).2 = num / den / 2 ^ e := by
  rcases le_or_gt 0 e with he | he
  · obtain ⟨k, rfl⟩ := Int.eq_ofNat_of_zero_le he
    rw [scaled, if_pos he, Nat.shiftLeft_eq, div_div, zpow_natCast]
    push_cast
    rfl
  · obtain ⟨k, rfl⟩ := Int.exists_eq_neg_ofNat he.le
    have hk : (- -(k : ℤ)).toNat = k := by omega
    rw [scaled, if_neg (by omega), Nat.shiftLeft_eq, hk, zpow_neg, zpow_natCast, div_inv_eq_mul]
    push_cast
    ring

/-- The logarithms of numerator and denominator tell the quotient up to a factor of two. -/
theorem quotient_bounds {num den : Nat} (hnum : num ≠ 0) (hden : den ≠ 0) :
    (2 : ℚ) ^ ((num.log2 : ℤ) - den.log2 - 1) < num / den ∧
      (num / den : ℚ) < 2 ^ ((num.log2 : ℤ) - den.log2 + 1) := by
  have hden' : (0 : ℚ) < den := by exact_mod_cast Nat.pos_of_ne_zero hden
  have hnumLow : (2 : ℚ) ^ (num.log2 : ℤ) ≤ num := by
    exact_mod_cast Nat.log2_self_le hnum
  have hnumHigh : (num : ℚ) < 2 ^ ((num.log2 : ℤ) + 1) := by
    exact_mod_cast Nat.lt_log2_self
  have hdenLow : (2 : ℚ) ^ (den.log2 : ℤ) ≤ den := by
    exact_mod_cast Nat.log2_self_le hden
  have hdenHigh : (den : ℚ) < 2 ^ ((den.log2 : ℤ) + 1) := by
    exact_mod_cast Nat.lt_log2_self
  have htwo : (2 : ℚ) ≠ 0 := two_ne_zero
  constructor
  · rw [lt_div_iff₀ hden']
    calc (2 : ℚ) ^ ((num.log2 : ℤ) - den.log2 - 1) * den
        < 2 ^ ((num.log2 : ℤ) - den.log2 - 1) * 2 ^ ((den.log2 : ℤ) + 1) := by gcongr
      _ = 2 ^ (num.log2 : ℤ) := by rw [← zpow_add₀ htwo]; congr 1; ring
      _ ≤ num := hnumLow
  · rw [div_lt_iff₀ hden']
    calc (num : ℚ) < 2 ^ ((num.log2 : ℤ) + 1) := hnumHigh
      _ = 2 ^ ((num.log2 : ℤ) - den.log2 + 1) * 2 ^ (den.log2 : ℤ) := by
          rw [← zpow_add₀ htwo]; congr 1; ring
      _ ≤ 2 ^ ((num.log2 : ℤ) - den.log2 + 1) * den := by gcongr

/-- Has a quotient at most 53 bits before the point, in units of `2 ^ e`? -/
theorem scaled_div_lt_iff (num : Nat) {den : Nat} (hden : 0 < den) (e : Int) :
    (scaled num den e).1 / (scaled num den e).2 < mantissaBound ↔ (num / den : ℚ) < 2 ^ (e + 53) := by
  have hpos := scaled_snd_pos num hden e
  have hpos' : (0 : ℚ) < (scaled num den e).2 := Nat.cast_pos.mpr hpos
  have hunit : (0 : ℚ) < 2 ^ e := by positivity
  have hbound : (mantissaBound : ℚ) = 2 ^ (53 : ℤ) := by
    rw [mantissaBound, Nat.one_shiftLeft]
    norm_num
  rw [Nat.div_lt_iff_lt_mul hpos, ← Nat.cast_lt (α := ℚ), Nat.cast_mul, ← div_lt_iff₀ hpos',
    scaled_eq, div_lt_iff₀ hunit, hbound, ← zpow_add₀ two_ne_zero, add_comm]

/-- The first try for an exponent, from the logarithms alone. -/
def firstExponent (num den : Nat) : Int := max ((num.log2 : Int) - den.log2 - 53) minExponent

theorem exponentOf_eq (num : Nat) {den : Nat} (hden : 0 < den) :
    exponentOf num den =
      if (num / den : ℚ) < 2 ^ (firstExponent num den + 53) then firstExponent num den
      else firstExponent num den + 1 := by
  have hiff := scaled_div_lt_iff num hden (firstExponent num den)
  rcases hscaled : scaled num den (firstExponent num den) with ⟨a, b⟩
  rw [hscaled] at hiff
  have hexponent : exponentOf num den =
      if mantissaBound ≤ a / b then firstExponent num den + 1 else firstExponent num den := by
    simp only [exponentOf, ← firstExponent.eq_1, hscaled]
  rw [hexponent]
  by_cases hlt : a / b < mantissaBound
  · rw [if_neg (Nat.not_le.mpr hlt), if_pos (hiff.mp hlt)]
  · rw [if_pos (Nat.not_lt.mp hlt), if_neg (mt hiff.mpr hlt)]

variable {num den : Nat}

/-- In units of its exponent a quotient has at most 53 bits before the point. -/
theorem quotient_lt_exponentOf (hnum : num ≠ 0) (hden : den ≠ 0) :
    (num / den : ℚ) < 2 ^ (exponentOf num den + 53) := by
  rw [exponentOf_eq num (Nat.pos_of_ne_zero hden)]
  split
  case isTrue hlt => exact hlt
  case isFalse =>
    refine (quotient_bounds hnum hden).2.trans_le (zpow_le_zpow_right₀ one_le_two ?_)
    rw [firstExponent]
    omega

/-- The exponent of a quotient below `2 ^ j` is at most `j - 53`, as far as there are such exponents. -/
theorem exponentOf_le (hnum : num ≠ 0) (hden : den ≠ 0) {j : Int} (hlt : (num / den : ℚ) < 2 ^ j) :
    exponentOf num den ≤ max (j - 53) minExponent := by
  have hlog : (num.log2 : ℤ) - den.log2 - 1 < j :=
    (zpow_lt_zpow_iff_right₀ one_lt_two).mp ((quotient_bounds hnum hden).1.trans hlt)
  rw [exponentOf_eq num (Nat.pos_of_ne_zero hden)]
  split
  case isTrue =>
    rw [firstExponent]
    omega
  case isFalse hle =>
    have hfirst : firstExponent num den + 53 < j :=
      (zpow_lt_zpow_iff_right₀ one_lt_two).mp ((not_lt.mp hle).trans_lt hlt)
    omega

/-! ## The rounded quotient -/

theorem value?_pack (s : Bool) {m : Nat} {e : Int} (hm : m ≤ mantissaBound) (he : e < maxExponent) :
    (pack s m e).value? = some ((signed s m : ℚ) * 2 ^ e) := by
  rcases hm.eq_or_lt with rfl | hlt
  · have hhalf : signed s mantissaBound = signed s (mantissaBound / 2) * (2 : ℕ) := by
      rw [← signed_mul]
      rfl
    have hvalue : (signed s mantissaBound : ℚ) * 2 ^ e =
        signed s (mantissaBound / 2) * 2 ^ (e + 1) := by
      rw [hhalf, zpow_add₀ two_ne_zero]
      push_cast
      ring
    simp only [pack, Nat.le_refl, if_true, if_neg (show ¬ maxExponent < e + 1 by omega), value?, hvalue]
  · simp only [pack, if_neg (Nat.not_le.mpr hlt), if_neg (show ¬ maxExponent < e by omega), value?]

/-- A rounded quotient is a multiple of a unit, and it differs from the quotient by half a unit at
most. -/
theorem exists_value?_ofQuotient (s : Bool) (hnum : num ≠ 0) (hden : den ≠ 0)
    (he : exponentOf num den < maxExponent) :
    ∃ r : ℕ, (ofQuotient s num den).value? = some ((signed s r : ℚ) * 2 ^ exponentOf num den) ∧
      |(r : ℚ) * 2 ^ exponentOf num den - num / den| ≤ 2 ^ exponentOf num den / 2 := by
  have hpos := Nat.pos_of_ne_zero hden
  rcases hscaled : scaled num den (exponentOf num den) with ⟨a, b⟩
  have hb : 0 < b := by simpa only [hscaled] using scaled_snd_pos num hpos (exponentOf num den)
  have hquotient : (a / b : ℚ) = num / den / 2 ^ exponentOf num den := by
    simpa only [hscaled] using scaled_eq num den (exponentOf num den)
  have hlt : a / b < mantissaBound := by
    simpa only [hscaled] using
      (scaled_div_lt_iff num hpos (exponentOf num den)).mpr (quotient_lt_exponentOf hnum hden)
  -- Rounding up may carry into a 54th bit.
  have hm : roundDiv a b ≤ mantissaBound := by
    rw [roundDiv]
    split <;> omega
  have hunit : (0 : ℚ) < 2 ^ exponentOf num den := by positivity
  refine ⟨roundDiv a b, ?_, ?_⟩
  · rw [ofQuotient, if_neg hnum, ← value?_pack s hm he]
    simp only [hscaled]
  · have herror := abs_roundDiv_sub_le a hb
    have hscale : (roundDiv a b : ℚ) * 2 ^ exponentOf num den - num / den =
        (roundDiv a b - a / b) * 2 ^ exponentOf num den := by
      rw [hquotient, sub_mul, div_mul_cancel₀ _ hunit.ne']
    rw [hscale, abs_mul, abs_of_pos hunit]
    calc |(roundDiv a b : ℚ) - a / b| * 2 ^ exponentOf num den
        ≤ 1 / 2 * 2 ^ exponentOf num den := by gcongr
      _ = 2 ^ exponentOf num den / 2 := by ring

/-! ## Rounding up after rounding -/

/-- A fraction above an integer is at least `1 / b` above it. -/
theorem add_inv_le_of_lt {q : ℤ} {c b : ℕ} (hb : 0 < b) (h : (q : ℚ) < c / b) :
    (q : ℚ) + 1 / b ≤ c / b := by
  have hb' : (0 : ℚ) < b := Nat.cast_pos.mpr hb
  have hint : q * b < c := by
    rw [lt_div_iff₀ hb'] at h
    exact_mod_cast h
  have hnext : (q * b + 1 : ℚ) ≤ c := by exact_mod_cast hint
  rw [le_div_iff₀ hb', add_mul, one_div_mul_cancel hb'.ne']
  exact hnext

/-- A multiple of a small unit, half a unit at most away from a quotient, has the same ceiling. -/
theorem ceil_eq_of_close {r k : ℕ} (hden : den ≠ 0) (hunit : den < 2 * 2 ^ k)
    (hclose : |(r / (2 ^ k : ℕ) : ℚ) - num / den| ≤ 1 / (2 ^ k : ℕ) / 2) :
    ⌈(r / (2 ^ k : ℕ) : ℚ)⌉ = ⌈(num / den : ℚ)⌉ := by
  have hden' : (0 : ℚ) < den := by exact_mod_cast Nat.pos_of_ne_zero hden
  have hpos : 0 < 2 ^ k := by positivity
  have hpos' : (0 : ℚ) < (2 ^ k : ℕ) := Nat.cast_pos.mpr hpos
  obtain ⟨hlow, hhigh⟩ := abs_le.mp hclose
  rw [Int.ceil_eq_iff]
  constructor
  · -- The quotient is at least `1 / den` above the integer below it, and half a unit is less.
    have hbelow : ((⌈(num / den : ℚ)⌉ - 1 : ℤ) : ℚ) < num / den := by
      push_cast
      linarith [Int.ceil_lt_add_one (num / den : ℚ)]
    have hgap := add_inv_le_of_lt (Nat.pos_of_ne_zero hden) hbelow
    have hsmall : (1 : ℚ) / (2 ^ k : ℕ) / 2 < 1 / den := by
      rw [div_div]
      refine one_div_lt_one_div_of_lt hden' ?_
      have hunit' : (den : ℚ) < 2 * (2 ^ k : ℕ) := by exact_mod_cast hunit
      linarith
    push_cast at hgap ⊢
    push_cast at hlow hsmall
    linarith
  · -- Above the integer there is no multiple of the unit that is not a whole unit away.
    by_contra hlt
    have hgap := add_inv_le_of_lt hpos (not_le.mp hlt)
    have hceil := Int.le_ceil (num / den : ℚ)
    have hhalf : (0 : ℚ) < 1 / (2 ^ k : ℕ) := by positivity
    linarith

/-- Rounding a quotient to a double does not change its ceiling, as long as the bits of the
denominator and the bits before the point fit in 54 bits. -/
theorem ceil_ofQuotient {j : ℕ} (hden : den ≠ 0) (hlt : num < den * 2 ^ j)
    (hbits : den * 2 ^ j < 2 ^ 54) :
    (ofQuotient false num den).ceil = some ⌈(num / den : ℚ)⌉ := by
  by_cases hnum : num = 0
  · subst hnum
    simp [ofQuotient, zero, ceil, signed, minExponent]
  have hden' : (0 : ℚ) < den := by exact_mod_cast Nat.pos_of_ne_zero hden
  have hlt' : (num / den : ℚ) < 2 ^ (j : ℤ) := by
    rw [div_lt_iff₀ hden', mul_comm, zpow_natCast]
    exact_mod_cast hlt
  have hj : j < 54 := by
    have hle : 2 ^ j ≤ den * 2 ^ j := Nat.le_mul_of_pos_left _ (Nat.pos_of_ne_zero hden)
    exact (Nat.pow_lt_pow_iff_right one_lt_two).mp (hle.trans_lt hbits)
  have hexponent := exponentOf_le hnum hden hlt'
  have he : exponentOf num den ≤ (j : ℤ) - 53 := by
    rw [minExponent] at hexponent
    omega
  obtain ⟨k, hk⟩ := Int.exists_eq_neg_ofNat (show exponentOf num den ≤ 0 by omega)
  obtain ⟨r, hvalue, hclose⟩ := exists_value?_ofQuotient false hnum hden (by
    rw [maxExponent]
    omega)
  have hunit : den < 2 * 2 ^ k := by
    refine Nat.lt_of_mul_lt_mul_right (a := 2 ^ j) ?_
    calc den * 2 ^ j < 2 ^ 54 := hbits
      _ ≤ 2 ^ (1 + k + j) := Nat.pow_le_pow_right two_pos (by omega)
      _ = 2 * 2 ^ k * 2 ^ j := by rw [pow_add, pow_add, pow_one]
  have hpower : (2 : ℚ) ^ (-(k : ℤ)) = 1 / (2 ^ k : ℕ) := by
    rw [zpow_neg, zpow_natCast, one_div]
    push_cast
    rfl
  rw [hk, hpower, mul_one_div] at hvalue hclose
  rw [ceil_of_value? hvalue]
  exact congrArg some (ceil_eq_of_close hden hunit hclose)

end Binary64

/-- Up to `60 * 2 ^ 48` instructions per second, in either direction, the number of instructions in a
tick is the exact one, although the rate is divided as a double: it is the least number of instructions
that is not less than a sixtieth of the rate, and at least one. -/
theorem cyclesForSpeed_exact (hz : Int) (h : |hz| ≤ 60 * 2 ^ 48) :
    cyclesForSpeed? hz = some (max 1 ⌈(|hz| / 60 : ℚ)⌉₊) := by
  have hle : hz.natAbs ≤ 60 * 2 ^ 48 := by
    rw [Int.abs_eq_natAbs] at h
    omega
  have hceil : (Binary64.ofQuotient false hz.natAbs 60).ceil = some ⌈(hz.natAbs / (60 : ℕ) : ℚ)⌉ := by
    rcases Nat.lt_or_eq_of_le hle with hlt | heq
    · exact Binary64.ceil_ofQuotient (by decide) hlt (by decide)
    · -- The last rate is a multiple of sixty: the unit is too large here, but the quotient is a double.
      rw [heq, show (Binary64.ofQuotient false (60 * 2 ^ 48) 60).ceil = some (2 ^ 48) by decide +kernel]
      norm_num
  have htick : Layout.tickRate = 60 := rfl
  rw [cyclesForSpeed?, htick, hceil, Option.map_some, Int.ceil_toNat, Nat.cast_natAbs, Nat.cast_ofNat]

/-- A rate just above a multiple of sixty: the last that fits, and backwards. -/
theorem cyclesForSpeed_exact_above_multiple :
    |(-(60 * (2 ^ 48 - 1) + 1) : Int)| ≤ 60 * 2 ^ 48 ∧
      cyclesForSpeed? (-(60 * (2 ^ 48 - 1) + 1)) = some (2 ^ 48) := by
  have hle : |(-(60 * (2 ^ 48 - 1) + 1) : Int)| ≤ 60 * 2 ^ 48 := by decide
  have hceil : ⌈(|(-(60 * (2 ^ 48 - 1) + 1) : ℤ)| / 60 : ℚ)⌉₊ = 2 ^ 48 := by norm_num
  refine ⟨hle, ?_⟩
  rw [cyclesForSpeed_exact _ hle, hceil]
  rfl

/-- Beyond, a rate can be so close above a multiple of sixty that its quotient is rounded down to an
integer. -/
example : cyclesForSpeed? (60 * 2 ^ 48 + 1) = some (2 ^ 48) := by decide +kernel

end ChipEight
