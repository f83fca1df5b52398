import ChipEight.Proofs.Json.Reading
import ChipEight.Proofs.Texts
import ChipEight.Settings.Document

/-!
# Line ends in documents

A document is read with one kind of line end. That changes its text, but not what the text stands for:
a carriage return is in a text only as a blank, and stays one as a line feed.
-/

namespace ChipEight.Json

open Settings (unifyLineEnds)

/-! ## Without carriage returns -/

theorem unifyLineEnds_cons {c : Char} (hc : c ≠ '\r') (s : List Char) :
    unifyLineEnds (c :: s) = c :: unifyLineEnds s := by
  rw [unifyLineEnds]
  · exact fun _ h _ => hc h
  · exact hc

/-- What has no carriage return is kept. -/
theorem unifyLineEnds_append {s : List Char} (hs : '\r' ∉ s) (t : List Char) :
    unifyLineEnds (s ++ t) = s ++ unifyLineEnds t := by
  induction s with
  | nil => rfl
  | cons c s ih =>
    rw [List.mem_cons, not_or] at hs
    rw [List.cons_append, unifyLineEnds_cons (Ne.symm hs.1), ih hs.2, List.cons_append]

theorem IsDigits.cr_not_mem {ds : List Char} (h : IsDigits ds) : '\r' ∉ ds :=
  fun hmem => absurd (h.2 _ hmem) (by decide)

theorem SpellsNumber.cr_not_mem {n : Number} {s : List Char} (h : SpellsNumber n s) : '\r' ∉ s := by
  have hminus : ∀ negative, '\r' ∉ minus negative := by decide
  cases h with
  | int hds hlen =>
    rw [List.mem_append, not_or]
    exact ⟨hminus _, hds.isDigits.cr_not_mem⟩
  | @float negative ds fs fraction exponent e? hds hfraction hexponent hne =>
    have hfraction : '\r' ∉ fraction := by
      cases hfraction with
      | absent => exact nofun
      | present hfs => simpa using hfs.cr_not_mem
    have hexponent : '\r' ∉ exponent := by
      cases hexponent with
      | absent => exact nofun
      | @present mark negative sign ds hmark hsign hds =>
        have hmark : '\r' ≠ mark := by
          rintro rfl
          exact absurd hmark (by decide)
        have hsign : '\r' ∉ sign := by
          cases hsign <;> decide
        simp [hmark, hsign, hds.cr_not_mem]
    simp [hminus, hds.isDigits.cr_not_mem, hfraction, hexponent]

theorem SpellsChar.cr_not_mem {c : Char} {s : List Char} (h : SpellsChar c s) : '\r' ∉ s := by
  have hunit : ∀ {d₁ d₂ d₃ d₄ : Char} {n : Nat}, unit? d₁ d₂ d₃ d₄ = some n →
      '\r' ∉ [d₁, d₂, d₃, d₄] := fun h => Hex.not_mem_of_number? h (by decide)
  cases h with
  | plain hcontrol hquote hslash =>
    rw [List.mem_singleton]
    rintro rfl
    exact absurd hcontrol (by decide)
  | letter hx =>
    rw [List.mem_cons, List.mem_singleton]
    rintro (h | rfl)
    · exact absurd h (by decide)
    · cases hx
  | unit hn =>
    have hdigits := hunit hn
    rw [List.mem_cons, List.mem_cons, not_or, not_or]
    exact ⟨by decide, by decide, hdigits⟩
  | pair hhigh hlow =>
    have hfirst := hunit hhigh
    have hsecond := hunit hlow
    simp only [List.mem_cons, List.not_mem_nil, or_false, not_or] at hfirst hsecond ⊢
    exact ⟨by decide, by decide, hfirst.1, hfirst.2.1, hfirst.2.2.1, hfirst.2.2.2,
      by decide, by decide, hsecond⟩

theorem SpellsString.cr_not_mem {t : String} {s : List Char} (h : SpellsString t s) : '\r' ∉ s := by
  obtain ⟨hs⟩ := h
  have hchars : ∀ {cs s : List Char}, SpellsChars cs s → '\r' ∉ s := by
    intro cs s hs
    induction hs with
    | nil => exact nofun
    | cons hc _ ih =>
      rw [List.mem_append, not_or]
      exact ⟨hc.cr_not_mem, ih⟩
  simpa using hchars hs

theorem SpellsScalar.cr_not_mem {v : Json} {s : List Char} (h : SpellsScalar v s) : '\r' ∉ s := by
  cases h with
  | word hw =>
    have hwords : ∀ w ∈ words.map (·.1), '\r' ∉ w.toList := by decide
    exact hwords _ (List.mem_map_of_mem hw)
  | number hs => exact hs.cr_not_mem
  | string hs => exact hs.cr_not_mem

/-! ## Blanks -/

theorem unifyLineEnds_cr_newline (s : List Char) :
    unifyLineEnds ('\r' :: '\n' :: s) = unifyLineEnds ('\n' :: s) := by
  rw [unifyLineEnds, unifyLineEnds_cons (by decide)]

theorem unifyLineEnds_cr {s : List Char} (hs : s.head? ≠ some '\n') :
    unifyLineEnds ('\r' :: s) = '\n' :: unifyLineEnds s := by
  rw [unifyLineEnds]
  rintro t rfl
  exact hs rfl

/-- Blanks stay blanks before what is no blank. -/
theorem exists_unified_blank {b : List Char} (hb : IsBlank b) :
    ∃ b', IsBlank b' ∧ ∀ s, Stops isSpace s → unifyLineEnds (b ++ s) = b' ++ unifyLineEnds s := by
  induction b with
  | nil => exact ⟨[], nofun, fun _ _ => rfl⟩
  | cons c b ih =>
    obtain ⟨hc, hb⟩ := List.forall_mem_cons.mp hb
    obtain ⟨b', hb', hunified⟩ := ih hb
    by_cases hcr : c = '\r'
    · subst hcr
      by_cases hnewline : b.head? = some '\n'
      · -- The line feed behind the carriage return is what is left of both.
        obtain ⟨t, rfl⟩ := List.head?_eq_some_iff.mp hnewline
        exact ⟨b', hb', fun s hs => (unifyLineEnds_cr_newline (t ++ s)).trans (hunified s hs)⟩
      · refine ⟨'\n' :: b', List.forall_mem_cons.mpr ⟨rfl, hb'⟩, fun s hs => ?_⟩
        have hhead : (b ++ s).head? ≠ some '\n' := by
          cases b with
          | nil => exact fun h => absurd (hs _ h) (by decide)
          | cons d b => exact hnewline
        rw [List.cons_append, unifyLineEnds_cr hhead, hunified s hs, List.cons_append]
    · refine ⟨c :: b', List.forall_mem_cons.mpr ⟨hc, hb'⟩, fun s hs => ?_⟩
      rw [List.cons_append, unifyLineEnds_cons hcr, hunified s hs, List.cons_append]

theorem exists_unified_blank_cons {b : List Char} (hb : IsBlank b) {c : Char}
    (hc : isSpace c = false) :
    ∃ b', IsBlank b' ∧ ∀ s, unifyLineEnds (b ++ c :: s) = b' ++ c :: unifyLineEnds s := by
  obtain ⟨b', hb', hunified⟩ := exists_unified_blank hb
  have hcr : c ≠ '\r' := by
    rintro rfl
    cases hc
  refine ⟨b', hb', fun s => ?_⟩
  rw [hunified, unifyLineEnds_cons hcr]
  rintro _ ⟨⟩
  exact hc

/-! ## Texts -/

/-- A text with other line ends stands for the same. -/
theorem Spells.exists_unified {p : Phrase} {s : List Char} (h : Spells p s) :
    ∃ s', Spells p s' ∧ ∀ t, unifyLineEnds (s ++ t) = s' ++ unifyLineEnds t := by
  induction h with
  | @scalar v s hs => exact ⟨s, .scalar hs, unifyLineEnds_append hs.cr_not_mem⟩
  | emptyList hb =>
    obtain ⟨b', hb', hblank⟩ := exists_unified_blank_cons hb (c := ']') rfl
    refine ⟨_, .emptyList hb', fun t => ?_⟩
    simp only [List.cons_append, List.append_assoc, List.nil_append, hblank,
      unifyLineEnds_cons (c := '[') (by decide)]
  | @list xs b s hb hs ih =>
    obtain ⟨b', hb', hblank⟩ := exists_unified_blank hb
    obtain ⟨s', hs', hunified⟩ := ih
    refine ⟨_, .list hb' hs', fun t => ?_⟩
    simp only [List.cons_append, List.append_assoc, hblank _ (hs.begins.append t).stops, hunified,
      unifyLineEnds_cons (c := '[') (by decide)]
  | emptyObject hb =>
    obtain ⟨b', hb', hblank⟩ := exists_unified_blank_cons hb (c := '\x7d') rfl
    refine ⟨_, .emptyObject hb', fun t => ?_⟩
    simp only [List.cons_append, List.append_assoc, List.nil_append, hblank,
      unifyLineEnds_cons (c := '\x7b') (by decide)]
  | @object ms b s hb hs ih =>
    obtain ⟨b', hb', hblank⟩ := exists_unified_blank hb
    obtain ⟨s', hs', hunified⟩ := ih
    refine ⟨_, .object hb' hs', fun t => ?_⟩
    simp only [List.cons_append, List.append_assoc, hblank _ (hs.begins.append t).stops, hunified,
      unifyLineEnds_cons (c := '\x7b') (by decide)]
  | lastItem _ hb ih =>
    obtain ⟨s', hs', hunified⟩ := ih
    obtain ⟨b', hb', hblank⟩ := exists_unified_blank_cons hb (c := ']') rfl
    refine ⟨_, .lastItem hs' hb', fun t => ?_⟩
    simp only [List.cons_append, List.append_assoc, List.nil_append, hblank, hunified]
  | @item v xs s b₁ b₂ u _ hb₁ hb₂ hu ihs ihu =>
    obtain ⟨s', hs', hunified⟩ := ihs
    obtain ⟨b₁', hb₁', hblank₁⟩ := exists_unified_blank_cons hb₁ (c := ',') rfl
    obtain ⟨b₂', hb₂', hblank₂⟩ := exists_unified_blank hb₂
    obtain ⟨u', hu', hunified'⟩ := ihu
    refine ⟨_, .item hs' hb₁' hb₂' hu', fun t => ?_⟩
    simp only [List.cons_append, List.append_assoc, hunified, hblank₁,
      hblank₂ _ (hu.begins.append t).stops, hunified']
  | @lastMember name v k b₁ b₂ s b₃ hk hb₁ hb₂ hs hb₃ ih =>
    obtain ⟨b₁', hb₁', hblank₁⟩ := exists_unified_blank_cons hb₁ (c := ':') rfl
    obtain ⟨b₂', hb₂', hblank₂⟩ := exists_unified_blank hb₂
    obtain ⟨s', hs', hunified⟩ := ih
    obtain ⟨b₃', hb₃', hblank₃⟩ := exists_unified_blank_cons hb₃ (c := '\x7d') rfl
    refine ⟨_, .lastMember hk hb₁' hb₂' hs' hb₃', fun t => ?_⟩
    simp only [List.cons_append, List.append_assoc, List.nil_append,
      unifyLineEnds_append hk.cr_not_mem, hblank₁, hblank₂ _ (hs.begins.append _).stops, hunified,
      hblank₃]
  | @member name v ms k b₁ b₂ s b₃ b₄ u hk hb₁ hb₂ hs hb₃ hb₄ hu ihs ihu =>
    obtain ⟨b₁', hb₁', hblank₁⟩ := exists_unified_blank_cons hb₁ (c := ':') rfl
    obtain ⟨b₂', hb₂', hblank₂⟩ := exists_unified_blank hb₂
    obtain ⟨s', hs', hunified⟩ := ihs
    obtain ⟨b₃', hb₃', hblank₃⟩ := exists_unified_blank_cons hb₃ (c := ',') rfl
    obtain ⟨b₄', hb₄', hblank₄⟩ := exists_unified_blank hb₄
    obtain ⟨u', hu', hunified'⟩ := ihu
    refine ⟨_, .member hk hb₁' hb₂' hs' hb₃' hb₄' hu', fun t => ?_⟩
    simp only [List.cons_append, List.append_assoc, unifyLineEnds_append hk.cr_not_mem, hblank₁,
      hblank₂ _ (hs.begins.append _).stops, hunified, hblank₃,
      hblank₄ _ (hu.begins.append t).stops, hunified']

theorem spellsDocument_unifyLineEnds {v : Json} {s : List Char} (h : SpellsDocument v s) :
    SpellsDocument v (unifyLineEnds s) := by
  cases h with
  | @padded b₁ s b₂ hb₁ hs hb₂ =>
    obtain ⟨b₁', hb₁', hblank₁⟩ := exists_unified_blank hb₁
    obtain ⟨s', hs', hunified⟩ := hs.exists_unified
    obtain ⟨b₂', hb₂', hblank₂⟩ := exists_unified_blank hb₂
    have hend : unifyLineEnds b₂ = b₂' := by
      simpa [unifyLineEnds] using hblank₂ [] nofun
    rw [hblank₁ _ (hs.begins.append b₂).stops, hunified, hend]
    exact .padded hb₁' hs' hb₂'

end ChipEight.Json
