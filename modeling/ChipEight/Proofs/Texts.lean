import Mathlib.Algebra.Group.Nat.Defs
import ChipEight.Number.Hex

/-!
# Texts that can be taken apart

What a text that was put together of parts says about the parts: hexadecimal digits give back their
number and are the digits of it one by one, texts joined with a separator that is in none of them give
back the texts, and so do texts of known lengths.
-/

namespace ChipEight

namespace Hex

/-! ## Hexadecimal digits -/

/-- One more digit behind a number. -/
def appendDigit (n : Option Nat) (c : Char) : Option Nat := do
  return 16 * (← n) + (← digit? c)

theorem number?_of_ne_nil {s : List Char} (h : s ≠ []) :
    number? s = s.foldl appendDigit (some 0) := by
  cases s with
  | nil => exact absurd rfl h
  | cons c s => rfl

theorem digit?_digitChar : ∀ d < 16, digit? (Nat.digitChar d) = some d := by decide

theorem foldl_appendDigit_toDigits (n : Nat) :
    (Nat.toDigits 16 n).foldl appendDigit (some 0) = some n := by
  induction n using Nat.strongRecOn with
  | ind n ih =>
    rw [Nat.toDigits_eq_if (by decide)]
    split
    case isTrue hlt =>
      simp [appendDigit, digit?_digitChar n hlt]
    case isFalse hle =>
      have hdigit := digit?_digitChar (n % 16) (Nat.mod_lt n (by decide))
      have hsum : 16 * (n / 16) + n % 16 = n := Nat.div_add_mod n 16
      rw [List.foldl_append, ih (n / 16) (by omega)]
      simp [appendDigit, hdigit, hsum]

theorem foldl_appendDigit_zeros (k : Nat) :
    (List.replicate k '0').foldl appendDigit (some 0) = some 0 := by
  induction k with
  | zero => rfl
  | succ k ih => exact ih

/-- Digits give back their number, whatever the width. -/
theorem number?_padLeft (width n : Nat) : number? (padLeft width (Nat.toDigits 16 n)) = some n := by
  have hne : padLeft width (Nat.toDigits 16 n) ≠ [] :=
    List.append_ne_nil_of_right_ne_nil _ Nat.toDigits_ne_nil
  rw [number?_of_ne_nil hne, padLeft, List.foldl_append, foldl_appendDigit_zeros,
    foldl_appendDigit_toDigits]

theorem lower_inj {width m n : Nat} : lower width m = lower width n ↔ m = n := by
  constructor
  · intro h
    have hdigits := congrArg (fun s => number? s.toList) h
    simpa only [lower, String.toList_ofList, number?_padLeft, Option.some.injEq] using hdigits
  · rintro rfl
    rfl

theorem length_padLeft {width n : Nat} (hwidth : 0 < width) (hn : n < 16 ^ width) :
    (padLeft width (Nat.toDigits 16 n)).length = width := by
  have hle := (Nat.length_toDigits_le_iff (by decide) hwidth).mpr hn
  rw [padLeft, List.length_append, List.length_replicate]
  omega

/-- A number that fits the width takes just the width. -/
theorem length_lower {width n : Nat} (hwidth : 0 < width) (hn : n < 16 ^ width) :
    (lower width n).length = width := by
  rw [lower, String.length_ofList, length_padLeft hwidth hn]

theorem foldl_appendDigit_none (s : List Char) : s.foldl appendDigit none = none := by
  induction s with
  | nil => rfl
  | cons c s ih => exact ih

/-- Only digits stand for a number. -/
theorem isSome_digit?_of_foldl {s : List Char} {n? : Option Nat} {n : Nat}
    (h : s.foldl appendDigit n? = some n) : ∀ c ∈ s, (digit? c).isSome := by
  induction s generalizing n? with
  | nil => exact nofun
  | cons d s ih =>
    intro c hc
    rcases List.mem_cons.mp hc with rfl | hc
    · cases hdigit : digit? c with
      | some d => rfl
      | none =>
        have hnone : appendDigit n? c = none := by
          cases n? <;> simp [appendDigit, hdigit]
        rw [List.foldl_cons, hnone, foldl_appendDigit_none] at h
        cases h
    · exact ih h c hc

/-- What is no digit is not in the text of a number. -/
theorem not_mem_of_number? {s : List Char} {n : Nat} (h : number? s = some n) {c : Char}
    (hc : digit? c = none) : c ∉ s := by
  intro hmem
  rw [number?_of_ne_nil (List.ne_nil_of_mem hmem)] at h
  have hdigit := isSome_digit?_of_foldl h c hmem
  rw [hc] at hdigit
  cases hdigit

theorem not_mem_lower {width n : Nat} {c : Char} (hc : digit? c = none) :
    c ∉ (lower width n).toList := by
  rw [lower, String.toList_ofList]
  exact not_mem_of_number? (number?_padLeft width n) hc

/-! ## Digits one by one -/

/-- A digit in upper case. -/
def capital (d : Nat) : Char := (Nat.digitChar d).toUpper

/-- The last digit, behind the text of the others. -/
theorem padLeft_succ {width : Nat} (hwidth : 0 < width) (n : Nat) :
    padLeft (width + 1) (Nat.toDigits 16 n) =
      padLeft width (Nat.toDigits 16 (n / 16)) ++ [Nat.digitChar (n % 16)] := by
  by_cases hn : n < 16
  · -- There are no other digits, and the text of zero is a zero like those in front of it.
    rw [Nat.toDigits_of_lt_base hn, Nat.div_eq_of_lt hn, Nat.mod_eq_of_lt hn, Nat.toDigits_zero]
    obtain ⟨k, rfl⟩ : ∃ k, width = k + 1 := Nat.exists_eq_add_one.mpr hwidth
    simp [padLeft, List.replicate_succ']
  · have hdigits : Nat.toDigits 16 n = Nat.toDigits 16 (n / 16) ++ [Nat.digitChar (n % 16)] := by
      rw [Nat.toDigits_eq_if (by decide), if_neg hn]
    rw [hdigits, padLeft, padLeft, List.length_append, List.length_singleton,
      Nat.add_sub_add_right, List.append_assoc]

/-- The four digits of a word. -/
theorem toList_upper_four {n : Nat} (hn : n < 0x10000) :
    (upper 4 n).toList = [n / 0x1000, n / 0x100 % 16, n / 0x10 % 16, n % 16].map capital := by
  have hfirst : n / 16 / 16 / 16 < 16 := by omega
  rw [upper, String.toList_ofList, padLeft_succ (by decide), padLeft_succ (by decide),
    padLeft_succ (by decide), Nat.toDigits_of_lt_base hfirst]
  simp [padLeft, capital, Nat.div_div_eq_div_mul]

end Hex

namespace Texts

/-! ## Parts of known lengths -/

theorem append_inj {s s' t t' : String} (hlen : s.length = s'.length) :
    s ++ t = s' ++ t' ↔ s = s' ∧ t = t' := by
  constructor
  · intro h
    have hlists := congrArg String.toList h
    rw [String.toList_append, String.toList_append] at hlists
    obtain ⟨hs, ht⟩ := List.append_inj hlists hlen
    exact ⟨String.toList_inj.mp hs, String.toList_inj.mp ht⟩
  · rintro ⟨rfl, rfl⟩
    rfl

/-- Joined texts of known lengths give back the texts. -/
theorem intercalate_inj_of_lengths {sep : String} {xs ys : List String}
    (hlen : xs.map String.length = ys.map String.length) :
    sep.intercalate xs = sep.intercalate ys ↔ xs = ys := by
  refine ⟨fun h => ?_, congrArg _⟩
  induction xs generalizing ys with
  | nil => exact (List.map_eq_nil_iff.mp hlen.symm).symm
  | cons x xs ih =>
    cases ys with
    | nil => cases hlen
    | cons y ys =>
      rw [List.map_cons, List.map_cons, List.cons.injEq] at hlen
      obtain ⟨hhead, htail⟩ := hlen
      cases xs with
      | nil =>
        obtain rfl : ys = [] := List.map_eq_nil_iff.mp htail.symm
        rwa [String.intercalate_singleton, String.intercalate_singleton,
          ← List.singleton_inj] at h
      | cons x' xs =>
        cases ys with
        | nil => cases htail
        | cons y' ys =>
          rw [String.intercalate_cons_cons, String.intercalate_cons_cons,
            append_inj (by rw [String.length_append, String.length_append, hhead]),
            append_inj hhead] at h
          rw [h.1.1, ih htail h.2]

/-! ## Parts without the separator -/

/-- Splitting at a separator that is in none of the texts undoes the joining. -/
theorem splitOn_intercalate {sep : String} {c : Char} (hsep : sep.toList = [c]) {xs : List String}
    (hxs : xs ≠ []) (hcx : ∀ x ∈ xs, c ∉ x.toList) :
    (sep.intercalate xs).toList.splitOn c = xs.map String.toList := by
  rw [String.toList_intercalate, hsep]
  refine List.splitOn_intercalate c ?_ (mt List.map_eq_nil_iff.mp hxs)
  simpa using hcx

/-- Joined texts give back the texts when the separator is in none of them. -/
theorem intercalate_inj_of_not_mem (sep : String) (c : Char) (hsep : sep.toList = [c])
    {xs ys : List String} (hxs : xs ≠ []) (hys : ys ≠ []) (hcx : ∀ x ∈ xs, c ∉ x.toList)
    (hcy : ∀ y ∈ ys, c ∉ y.toList) : sep.intercalate xs = sep.intercalate ys ↔ xs = ys := by
  refine ⟨fun h => ?_, congrArg _⟩
  have hlists := congrArg (fun s => s.toList.splitOn c) h
  simp only [splitOn_intercalate hsep hxs hcx, splitOn_intercalate hsep hys hcy] at hlists
  exact (List.map_inj_right fun _ _ => String.toList_inj.mp).mp hlists

/-- What is in neither the separator nor a text is not in the joined texts. -/
theorem not_mem_intercalate {sep : String} {c : Char} (hsep : c ∉ sep.toList) {xs : List String}
    (hxs : ∀ x ∈ xs, c ∉ x.toList) : c ∉ (sep.intercalate xs).toList := by
  induction xs with
  | nil => simp
  | cons x xs ih =>
    obtain ⟨hx, hrest⟩ := List.forall_mem_cons.mp hxs
    cases xs with
    | nil => rwa [String.intercalate_singleton]
    | cons x' xs =>
      rw [String.intercalate_cons_cons, String.toList_append, String.toList_append,
        List.mem_append, List.mem_append]
      rintro ((hc | hc) | hc)
      · exact hx hc
      · exact hsep hc
      · exact ih hrest hc

end Texts

end ChipEight
