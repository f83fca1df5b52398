import ChipEight.Json.Writer
import ChipEight.Proofs.Json.Grammar
import ChipEight.Proofs.Texts

/-!
# The writer knows the grammar

What the writer makes of a value is a text of this value: of a string of any characters, of an integer
that is not too long, and of an object whose members have different names and are written well.
-/

namespace ChipEight.Json

/-! ## Strings -/

theorem exists_unitEscape {n : Nat} (hn : n < 0x10000) :
    ∃ d₁ d₂ d₃ d₄, unitEscape n = ['\\', 'u', d₁, d₂, d₃, d₄] ∧ unit? d₁ d₂ d₃ d₄ = some n := by
  have hlength := Hex.length_padLeft (by decide : 0 < 4) hn
  have hvalue := Hex.number?_padLeft 4 n
  match hdigits : Hex.padLeft 4 (Nat.toDigits 16 n), hlength with
  | [d₁, d₂, d₃, d₄], _ =>
    rw [hdigits] at hvalue
    exact ⟨d₁, d₂, d₃, d₄, by rw [unitEscape, hdigits], hvalue⟩

/-- A character beyond the first 65536 is two halves. -/
theorem spells_pair {c : Char} (hc : 0x10000 ≤ c.toNat) :
    SpellsChar c (unitEscape (0xD800 + (c.toNat - 0x10000) / 0x400) ++
      unitEscape (0xDC00 + (c.toNat - 0x10000) % 0x400)) := by
  have hvalid : c.toNat < 0xD800 ∨ 0xDFFF < c.toNat ∧ c.toNat < 0x110000 := c.valid
  obtain ⟨_, _, _, _, hhigh, hhighValue⟩ :=
    exists_unitEscape (n := 0xD800 + (c.toNat - 0x10000) / 0x400) (by omega)
  obtain ⟨_, _, _, _, hlow, hlowValue⟩ :=
    exists_unitEscape (n := 0xDC00 + (c.toNat - 0x10000) % 0x400) (by omega)
  rw [hhigh, hlow]
  refine .pair hhighValue hlowValue ?_ ?_ (by omega)
  · simp only [isHigh, Bool.and_eq_true, decide_eq_true_eq]
    omega
  · simp only [isLow, Bool.and_eq_true, decide_eq_true_eq]
    omega

theorem spells_escape (c : Char) : SpellsChar c (escape c) := by
  have hletter : ∀ x, escaped? x = some c → SpellsChar c ['\\', x] := fun _ => .letter
  unfold escape
  split
  case isTrue h => exact hletter '"' (by rw [h]; rfl)
  case isFalse hquote =>
  split
  case isTrue h => exact hletter '\\' (by rw [h]; rfl)
  case isFalse hslash =>
  split
  case isTrue h => exact hletter 'n' (by rw [h]; rfl)
  split
  case isTrue h => exact hletter 'r' (by rw [h]; rfl)
  split
  case isTrue h => exact hletter 't' (by rw [h]; rfl)
  split
  case isTrue h => exact hletter 'f' (by rw [h]; rfl)
  split
  case isTrue h => exact hletter 'b' (by rw [h]; rfl)
  split
  case isTrue h => exact .plain h.1 hquote hslash
  split
  case isTrue h =>
    obtain ⟨_, _, _, _, htext, hvalue⟩ := exists_unitEscape h
    rw [htext]
    exact .unit hvalue
  case isFalse h => exact spells_pair (Nat.le_of_not_lt h)

theorem spells_flatMap_escape (cs : List Char) : SpellsChars cs (cs.flatMap escape) := by
  induction cs with
  | nil => exact .nil
  | cons c cs ih => exact .cons (spells_escape c) ih

theorem spells_literal (t : String) : SpellsString t (literal t) :=
  .quoted (spells_flatMap_escape t.toList)

/-! ## Integers -/

theorem isDigits_toDigits (n : Nat) : IsDigits (Nat.toDigits 10 n) := by
  refine ⟨Nat.toDigits_ne_nil, fun d hd => ?_⟩
  have hdigit := Nat.isDigit_of_mem_toDigits (by decide) (by decide) hd
  simpa [isDigit, Char.isDigit, Char.le_def] using hdigit

/-- The first digit of a number is no zero unless the number is zero. -/
theorem head?_toDigits {n : Nat} (hn : 0 < n) : (Nat.toDigits 10 n).head? ≠ some '0' := by
  induction n using Nat.strongRecOn with
  | ind n ih =>
    rw [Nat.toDigits_eq_if (by decide)]
    split
    case isTrue hlt =>
      have hdigit : ∀ d < 10, 0 < d → [Nat.digitChar d].head? ≠ some '0' := by decide
      exact hdigit n hlt hn
    case isFalse hle =>
      have hfirst := ih (n / 10) (by omega) (by omega)
      obtain ⟨d, ds, hdigits⟩ := List.exists_cons_of_ne_nil (Nat.toDigits_ne_nil (n := n / 10) (b := 10))
      rw [hdigits] at hfirst ⊢
      exact hfirst

theorem isWhole_toDigits (n : Nat) : IsWhole (Nat.toDigits 10 n) := by
  cases n with
  | zero => exact .inl (Nat.toDigits_zero 10)
  | succ n => exact .inr ⟨isDigits_toDigits _, head?_toDigits n.succ_pos⟩

theorem spells_integer {n : Int} (hn : n.natAbs < 10 ^ Numeral.maxDigits) :
    SpellsNumber (.int n) (integer n) := by
  have hlen := (Nat.length_toDigits_le_iff (by decide) (by decide)).mpr hn
  have hvalue : decimal (Nat.toDigits 10 n.natAbs) = n.natAbs := Nat.ofDigitChars_ten_toDigits
  have hsigned : signed (decide (n < 0)) n.natAbs = n := by
    simp only [signed, decide_eq_true_eq]
    omega
  have htext : integer n = minus (decide (n < 0)) ++ Nat.toDigits 10 n.natAbs := by
    by_cases hneg : n < 0 <;> simp [integer, minus, hneg]
  have hint : SpellsNumber (.int (signed (decide (n < 0)) (decimal (Nat.toDigits 10 n.natAbs))))
      (minus (decide (n < 0)) ++ Nat.toDigits 10 n.natAbs) :=
    .int (isWhole_toDigits n.natAbs) hlen
  rwa [hvalue, hsigned, ← htext] at hint

/-! ## Objects -/

theorem isBlank_lineBreak (indent : Option Nat) (depth : Nat) : IsBlank (lineBreak indent depth) := by
  cases indent with
  | none => exact nofun
  | some n =>
    intro c hc
    rcases List.mem_cons.mp hc with rfl | hc
    · rfl
    · rw [List.eq_of_mem_replicate hc]
      rfl

variable {indent : Option Nat} {depth : Nat}

theorem spells_writeMembers {name : String} {v : Json} {ms : List (String × Json)}
    (h : ∀ m ∈ (name, v) :: ms, Spells (.value m.2) (write indent (depth + 1) m.2)) :
    Spells (.members ((name, v) :: ms))
      (literal name ++ ':' :: ' ' :: write indent (depth + 1) v ++
        writeMembers indent (depth + 1) ms ++ lineBreak indent depth ++ ['\x7d']) := by
  have hnone : IsBlank [] := nofun
  have hspace : IsBlank [' '] := by decide
  induction ms generalizing name v with
  | nil =>
    obtain ⟨hv, -⟩ := List.forall_mem_cons.mp h
    have hlast := Spells.lastMember (spells_literal name) hnone hspace hv
      (isBlank_lineBreak indent depth)
    simpa [writeMembers] using hlast
  | cons m ms ih =>
    obtain ⟨hv, hms⟩ := List.forall_mem_cons.mp h
    have hmember := Spells.member (spells_literal name) hnone hspace hv hnone
      (isBlank_lineBreak indent (depth + 1)) (ih hms)
    simpa [writeMembers] using hmember

/-- An object with different names is written well if its values are. -/
theorem spells_write_object {ms : List (String × Json)} (hnames : (ms.map (·.1)).Nodup)
    (h : ∀ m ∈ ms, Spells (.value m.2) (write indent (depth + 1) m.2)) :
    Spells (.value (obj ms)) (write indent depth (obj ms)) := by
  cases ms with
  | nil => exact .emptyObject (b := []) nofun
  | cons m ms =>
    have hobject := Spells.object (isBlank_lineBreak indent (depth + 1)) (spells_writeMembers h)
    rw [collect_of_nodup hnames] at hobject
    simpa [write] using hobject

end ChipEight.Json
