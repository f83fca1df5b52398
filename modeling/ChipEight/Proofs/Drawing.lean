import ChipEight.Proofs.Scan
import Mathlib

/-!
# What a drawing does to a grid

A drawing strikes those pixels of the grid on which a set bit of the sprite falls (`Grid.struck`): the
corner of the sprite wraps around the grid, and its body is cut off at the edges. A struck pixel is met
once while drawing (`Grid.nodup_spritePixels`), so it is flipped, and what is found there is what was there
before. In terms of sets, the lit pixels after a drawing are the symmetric difference of those before it
and the struck ones (`Grid.litPixels_draw`), which also settles how many there are
(`Grid.draw_exact`).
-/

namespace ChipEight.Grid

open Finset
open scoped symmDiff

variable {w h : Nat}

/-! ## The bits of a sprite -/

/-- Is the pixel of a sprite set that lies `i` columns to the right of its corner and `j` rows below? A row
has eight columns, the first one in its highest bit, and a negative row is taken in two's complement. -/
def spriteBit (rows : List Int) (i j : Int) : Bool :=
  decide (0 ≤ i ∧ i < 8 ∧ 0 ≤ j) && rows[j.toNat]?.any fun row => row.testBit (7 - i).toNat

theorem spriteBit_iff {rows : List Int} {i j : Int} :
    spriteBit rows i j ↔ 0 ≤ i ∧ i < 8 ∧ 0 ≤ j ∧
      ∃ row, rows[j.toNat]? = some row ∧ row.testBit (7 - i).toNat := by
  simp [spriteBit, Option.any_eq_true, and_assoc]

/-- The first row of a sprite, and the others below it. -/
theorem spriteBit_cons {row : Int} {rows : List Int} {i j : Int} :
    spriteBit (row :: rows) i j ↔
      (j = 0 ∧ 0 ≤ i ∧ i < 8 ∧ row.testBit (7 - i).toNat) ∨ spriteBit rows i (j - 1) := by
  simp only [spriteBit_iff]
  rcases lt_trichotomy j 0 with hneg | rfl | hpos
  · constructor
    · rintro ⟨-, -, hj, -⟩
      omega
    · rintro (⟨hj, -⟩ | ⟨-, -, hj, -⟩) <;> omega
  · simp
  · have hplace : j.toNat = (j - 1).toNat + 1 := by omega
    have hne : j ≠ 0 := by omega
    have hle : 0 ≤ j ↔ 0 ≤ j - 1 := by omega
    rw [hplace, List.getElem?_cons_succ, hle]
    simp only [hne, false_and, false_or]

/-- A set pixel of a row is a bit of the integer. -/
theorem rowBit_eq_testBit (row : Int) (k : Nat) : rowBit row k = row.testBit (7 - k) := by
  rw [rowBit, Bool.eq_iff_iff, beq_iff_eq]
  cases row with
  | ofNat m =>
    show ((m >>> (7 - k) : Nat) : Int) % 2 = 1 ↔ m.testBit (7 - k)
    rw [Nat.testBit_eq_decide_div_mod_eq, Nat.shiftRight_eq_div_pow, decide_eq_true_iff]
    generalize m / 2 ^ (7 - k) = q
    omega
  | negSucc m =>
    show Int.negSucc (m >>> (7 - k)) % 2 = 1 ↔ (!m.testBit (7 - k)) = true
    rw [Nat.testBit_eq_decide_div_mod_eq, Nat.shiftRight_eq_div_pow, Bool.not_eq_true',
      decide_eq_false_iff_not]
    generalize m / 2 ^ (7 - k) = q
    omega

/-! ## The pixels that a drawing meets -/

theorem mem_rowPixels {x y : Nat} {row : Int} {p : Nat × Nat} :
    p ∈ rowPixels x y row ↔ p.2 = y ∧ x ≤ p.1 ∧ p.1 < x + 8 ∧ row.testBit (7 - (p.1 - x)) := by
  simp only [rowPixels, List.mem_map, List.mem_filter, List.mem_range, rowBit_eq_testBit]
  constructor
  · rintro ⟨k, ⟨hk, hbit⟩, rfl⟩
    refine ⟨rfl, Nat.le_add_right x k, Nat.add_lt_add_left hk x, ?_⟩
    rwa [Nat.add_sub_cancel_left]
  · rintro ⟨hy, hle, hlt, hbit⟩
    refine ⟨p.1 - x, ⟨by omega, hbit⟩, ?_⟩
    rw [Nat.add_sub_cancel' hle, ← hy]

/-- A drawing meets the pixels on which the set bits of the sprite fall. -/
theorem mem_spritePixels {x y : Nat} {rows : List Int} {p : Nat × Nat} :
    p ∈ spritePixels x y rows ↔ spriteBit rows (p.1 - x) (p.2 - y) := by
  induction rows generalizing y with
  | nil => simp [spritePixels, spriteBit]
  | cons row rows ih =>
    have hbelow : (p.2 : Int) - (y + 1 : Nat) = p.2 - y - 1 := by omega
    have hplace (hle : x ≤ p.1) : (7 - ((p.1 : Int) - x)).toNat = 7 - (p.1 - x) := by omega
    rw [spritePixels, List.mem_append, mem_rowPixels, ih, spriteBit_cons, hbelow]
    refine or_congr ?_ Iff.rfl
    constructor
    · rintro ⟨hy, hle, hlt, hbit⟩
      refine ⟨by omega, by omega, by omega, ?_⟩
      rwa [hplace hle]
    · rintro ⟨hy, hle, hlt, hbit⟩
      have hle : x ≤ p.1 := by omega
      rw [hplace hle] at hbit
      exact ⟨by omega, hle, by omega, hbit⟩

/-- No pixel is met twice. -/
theorem nodup_spritePixels (x y : Nat) (rows : List Int) : (spritePixels x y rows).Nodup := by
  induction rows generalizing y with
  | nil => exact List.nodup_nil
  | cons row rows ih =>
    rw [spritePixels, List.nodup_append']
    refine ⟨?_, ih (y + 1), ?_⟩
    · refine List.Nodup.map ?_ (List.nodup_range.filter _)
      intro k k' hk
      exact Nat.add_left_cancel (congrArg Prod.fst hk)
    · -- The rows below the first one lie below its pixels.
      intro p hrow hbelow
      have hy := (mem_rowPixels.mp hrow).1
      have hle := le_of_mem_spritePixels hbelow
      omega

/-! ## Flipping pixels -/

theorem inside_of_lit {g : Grid w h} {i j : Nat} (hlit : g.lit i j) : i < w ∧ j < h := by
  unfold lit at hlit
  split at hlit
  · split at hlit
    · exact ⟨‹_›, ‹_›⟩
    · cases hlit
  · cases hlit

theorem lit_flip_of_ne (g : Grid w h) {p q : Nat × Nat} (hne : p ≠ q) :
    (g.flip q.1 q.2).lit p.1 p.2 = g.lit p.1 p.2 := by
  by_cases hin : q.1 < w ∧ q.2 < h
  · have hp : ¬(p.1 = q.1 ∧ p.2 = q.2) := fun hp => hne (Prod.ext hp.1 hp.2)
    rw [lit_flip g hin.1 hin.2, if_neg hp]
  · -- Nothing happens outside the grid.
    have hflip : g.flip q.1 q.2 = g := by
      unfold flip
      split
      · split
        · exact absurd ⟨‹_›, ‹_›⟩ hin
        · rfl
      · rfl
    rw [hflip]

/-- Pixels that are all different are each flipped once. -/
theorem lit_plot (g : Grid w h) {ps : List (Nat × Nat)} (hps : ps.Nodup) {p : Nat × Nat}
    (hx : p.1 < w) (hy : p.2 < h) :
    (g.plot ps).2.lit p.1 p.2 = (g.lit p.1 p.2 ^^ decide (p ∈ ps)) := by
  induction ps generalizing g with
  | nil => simp [plot]
  | cons q ps ih =>
    obtain ⟨hq, hps⟩ := List.nodup_cons.mp hps
    show ((g.flip q.1 q.2).plot ps).2.lit p.1 p.2 = _
    rw [ih (g.flip q.1 q.2) hps]
    by_cases hpq : p = q
    · subst hpq
      rw [lit_flip g hx hy]
      simp [hq]
    · rw [lit_flip_of_ne g hpq]
      simp [hpq]

/-- A drawing of different pixels hits if one of them was lit before it. -/
theorem fst_plot (g : Grid w h) {ps : List (Nat × Nat)} (hps : ps.Nodup) :
    (g.plot ps).1 ↔ ∃ p ∈ ps, g.lit p.1 p.2 := by
  induction ps generalizing g with
  | nil => simp [plot]
  | cons q ps ih =>
    obtain ⟨hq, hps⟩ := List.nodup_cons.mp hps
    show (g.lit q.1 q.2 || ((g.flip q.1 q.2).plot ps).1) = true ↔ _
    rw [Bool.or_eq_true, ih (g.flip q.1 q.2) hps, List.exists_mem_cons_iff]
    refine or_congr Iff.rfl (exists_congr fun p => and_congr_right fun hp => ?_)
    -- The pixel that was flipped first does not come again.
    rw [lit_flip_of_ne g (ne_of_mem_of_not_mem hp hq)]

/-! ## Sets of pixels -/

/-- The pixels of a grid that are lit. -/
def litPixels (g : Grid w h) : Finset (Nat × Nat) :=
  (range w ×ˢ range h).filter fun p => g.lit p.1 p.2

theorem mem_litPixels {g : Grid w h} {p : Nat × Nat} : p ∈ g.litPixels ↔ g.lit p.1 p.2 := by
  rw [litPixels, mem_filter, mem_product, mem_range, mem_range, and_iff_right_iff_imp]
  exact inside_of_lit

/-- A grid is known by its lit pixels. -/
theorem ext_litPixels {g g' : Grid w h} (hlit : g.litPixels = g'.litPixels) : g = g' := by
  refine ext_lit fun i j _ _ => Bool.eq_iff_iff.mpr ?_
  rw [← mem_litPixels (p := (i, j)), hlit, mem_litPixels]

/-- The pixels of a grid of `h` rows of `w` pixels on which a set bit of a sprite falls when its corner is
put at a position that wraps around the grid. -/
def struck (w h : Nat) (x y : Int) (rows : List Int) : Finset (Nat × Nat) :=
  (range w ×ˢ range h).filter fun p => spriteBit rows (p.1 - x % w) (p.2 - y % h)

theorem mem_struck {x y : Int} {rows : List Int} {p : Nat × Nat} :
    p ∈ struck w h x y rows ↔
      (p.1 < w ∧ p.2 < h) ∧ spriteBit rows (p.1 - x % w) (p.2 - y % h) := by
  rw [struck, mem_filter, mem_product, mem_range, mem_range]

theorem cast_wrap (a : Int) {n : Nat} (hn : 1 ≤ n) : ((wrap a n : Nat) : Int) = a % n :=
  Int.toNat_of_nonneg (Int.emod_nonneg a (by omega))

section

variable (hw : 1 ≤ w) (hh : 1 ≤ h)
include hw hh

theorem mem_spritePixels_wrap {x y : Int} {rows : List Int} {p : Nat × Nat} :
    p ∈ spritePixels (wrap x w) (wrap y h) rows ↔
      spriteBit rows (p.1 - x % w) (p.2 - y % h) := by
  rw [mem_spritePixels, cast_wrap x hw, cast_wrap y hh]

/-- A drawing flips the struck pixels. -/
theorem litPixels_draw (g : Grid w h) (x y : Int) (rows : List Int) :
    (g.draw x y rows).2.litPixels = g.litPixels ∆ struck w h x y rows := by
  ext p
  rw [mem_litPixels, mem_symmDiff, mem_litPixels, mem_struck, ← mem_spritePixels_wrap hw hh]
  by_cases hin : p.1 < w ∧ p.2 < h
  · rw [draw, lit_plot g (nodup_spritePixels _ _ rows) hin.1 hin.2]
    by_cases hp : p ∈ spritePixels (wrap x w) (wrap y h) rows <;> simp [hp, hin]
  · have hdark (g : Grid w h) : ¬g.lit p.1 p.2 := fun hlit => hin (inside_of_lit hlit)
    simp [hdark, hin]

/-- A drawing hits if a struck pixel was lit. -/
theorem fst_draw (g : Grid w h) (x y : Int) (rows : List Int) :
    (g.draw x y rows).1 ↔ ∃ p ∈ struck w h x y rows, g.lit p.1 p.2 := by
  rw [draw, fst_plot g (nodup_spritePixels _ _ rows)]
  simp only [mem_spritePixels_wrap hw hh, mem_struck]
  refine exists_congr fun p => and_congr_left fun hlit => ?_
  exact (and_iff_right (inside_of_lit hlit)).symm

end

/-! ## How many pixels are lit -/

theorem count_true (bs : List Bool) : bs.count true = (bs.map Bool.toNat).sum := by
  induction bs with
  | nil => rfl
  | cons b bs ih => cases b <;> simp [ih, Nat.add_comm]

theorem sum_map_toList {α : Type} {n : Nat} (v : Vector α n) (f : α → Nat) :
    (v.toList.map f).sum = ∑ k : Fin n, f v[k] := by
  have hv : v.toList = List.ofFn fun k : Fin n => v[k] := by
    rw [← Vector.toList_ofFn]
    exact congrArg Vector.toList Vector.ofFn_getElem.symm
  rw [hv, List.map_ofFn, List.sum_ofFn]
  rfl

theorem litCount_eq_card (g : Grid w h) : g.litCount = #g.litPixels := by
  have hlit (y : Fin h) (x : Fin w) : (g.rows[y])[x].toNat = if g.lit x y then 1 else 0 := by
    simp [lit, Bool.toNat]
  calc g.litCount = (g.rows.toList.map fun row => (row.toList.map Bool.toNat).sum).sum := by
        rw [litCount, List.count_flatMap]
        simp only [Function.comp_def, count_true]
    _ = ∑ y : Fin h, ∑ x : Fin w, (g.rows[y])[x].toNat := by
        simp only [sum_map_toList]
    _ = ∑ y ∈ range h, ∑ x ∈ range w, if g.lit x y then 1 else 0 := by
        simp only [hlit, Finset.sum_range]
    _ = #g.litPixels := by
        rw [litPixels, card_filter, sum_product_right]

theorem card_symmDiff_add_card_inter (a b : Finset (Nat × Nat)) :
    #(a ∆ b) + #(b ∩ a) = #a + #(b \ a) := by
  have hdisjoint : Disjoint (a \ b) (b \ a) := disjoint_sdiff_sdiff
  have hsplit : #(a \ b) + #(a ∩ b) = #a := card_sdiff_add_card_inter a b
  rw [symmDiff_def, sup_eq_union, card_union_of_disjoint hdisjoint, inter_comm b a]
  omega

/-- Each struck pixel that was dark adds one to the lit ones, and each that was lit takes one away. -/
theorem litCount_draw (hw : 1 ≤ w) (hh : 1 ≤ h) (g : Grid w h) (x y : Int) (rows : List Int) :
    ((g.draw x y rows).2.litCount : Int) - g.litCount =
      #{p ∈ struck w h x y rows | ¬g.lit p.1 p.2} - #{p ∈ struck w h x y rows | g.lit p.1 p.2} := by
  have hlit : {p ∈ struck w h x y rows | g.lit p.1 p.2} = struck w h x y rows ∩ g.litPixels := by
    ext p
    rw [mem_filter, mem_inter, mem_litPixels]
  have hdark : {p ∈ struck w h x y rows | ¬g.lit p.1 p.2} = struck w h x y rows \ g.litPixels := by
    ext p
    rw [mem_filter, mem_sdiff, mem_litPixels]
  have hcard := card_symmDiff_add_card_inter g.litPixels (struck w h x y rows)
  rw [litCount_eq_card, litCount_eq_card, litPixels_draw hw hh, hlit, hdark]
  omega

/-- On a grid with pixels, whatever it shows, a drawing flips the struck pixels and leaves all others
alone. It hits if one of the struck pixels was lit before, and the number of lit pixels changes by what was
struck. The same comes of going through the sprite in rows and stopping at the edges. -/
theorem draw_exact (hw : 1 ≤ w) (hh : 1 ≤ h) (g : Grid w h) (x y : Int) (rows : List Int) :
    let drawn := g.draw x y rows
    g.draw? x y rows = some drawn ∧ g.scan x y rows = drawn ∧
    (∀ px py : Nat, drawn.2.lit px py =
      (g.lit px py ^^ decide ((px, py) ∈ struck w h x y rows))) ∧
    (drawn.1 = true ↔ ∃ p ∈ struck w h x y rows, g.lit p.1 p.2 = true) ∧
    (drawn.2.litCount : Int) - g.litCount =
      #{p ∈ struck w h x y rows | ¬g.lit p.1 p.2} -
        #{p ∈ struck w h x y rows | g.lit p.1 p.2} := by
  intro drawn
  refine ⟨?_, scan_eq_draw g x y rows, ?_, fst_draw hw hh g x y rows, litCount_draw hw hh g x y rows⟩
  · have hpixels : ¬(w = 0 ∨ h = 0) := by omega
    rw [draw?, if_neg hpixels]
  · intro px py
    have hpixel := Finset.ext_iff.mp (litPixels_draw hw hh g x y rows) (px, py)
    rw [mem_symmDiff, mem_litPixels, mem_litPixels] at hpixel
    rw [Bool.eq_iff_iff, hpixel, Bool.xor_iff_ne]
    by_cases hp : (px, py) ∈ struck w h x y rows <;> simp [hp]

/-- A grid that is narrower than a sprite. All eight pixels of the first row are set, but seven of them
are cut off, and so is the second row. -/
theorem draw_exact_narrow :
    let g : Grid 3 2 := dark.flip 2 1
    let drawn := g.draw (-1) 5 [-1, 0x80]
    drawn.1 = true ∧ drawn.2.lit 2 1 = false ∧ drawn.2.lit 0 1 = false ∧
      (drawn.2.litCount : Int) - g.litCount = -1 := by
  intro g drawn
  have hstruck : struck 3 2 (-1) 5 [-1, 0x80] = {(2, 1)} := by decide
  obtain ⟨-, -, hlit, hhit, hcount⟩ := draw_exact (by decide) (by decide) g (-1) 5 [-1, 0x80]
  rw [hstruck] at hlit hhit hcount
  refine ⟨hhit.mpr ⟨(2, 1), by decide, by decide⟩, ?_, ?_, ?_⟩
  · rw [hlit]
    decide
  · rw [hlit]
    decide
  · rw [hcount]
    decide

end ChipEight.Grid
