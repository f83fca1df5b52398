import ChipEight.Proofs.Drawing

/-!
# Drawings one over the other

The lit pixels after a drawing are the symmetric difference of those before it and the struck ones. So
drawings may change places (`Grid.drawAll_perm`), and two drawings that strike the same pixels undo each
other, whatever is drawn in between (`Grid.drawAll_cancel`).

Whether a drawing hits is another matter, as it depends on what is there. A sprite that is drawn twice in a
row meets, the second time, the pixels that it has lit the first time; those that it has darkened are no
hit (`Grid.fst_draw_again`). On a grid that shows something already, the second drawing can miss although
the first one has struck (`Grid.second_drawing_misses`).
-/

namespace ChipEight.Grid

open Finset
open scoped symmDiff

/-- A sprite and the position of its corner. -/
structure Overlay where
  x : Int
  y : Int
  rows : List Int
  deriving DecidableEq, Repr

variable {w h : Nat}

/-- Draws sprites one over the other. -/
def drawAll (g : Grid w h) (os : List Overlay) : Grid w h :=
  os.foldl (fun g o => (g.draw o.x o.y o.rows).2) g

theorem drawAll_append (g : Grid w h) (os os' : List Overlay) :
    g.drawAll (os ++ os') = (g.drawAll os).drawAll os' :=
  List.foldl_append

/-- The same rows at positions that are the same on the grid strike the same pixels. -/
theorem struck_congr {o o' : Overlay} (hrows : o.rows = o'.rows) (hx : o.x ≡ o'.x [ZMOD w])
    (hy : o.y ≡ o'.y [ZMOD h]) : struck w h o.x o.y o.rows = struck w h o'.x o'.y o'.rows := by
  have hx : o.x % w = o'.x % w := hx
  have hy : o.y % h = o'.y % h := hy
  simp only [struck, hrows, hx, hy]

section

variable (hw : 1 ≤ w) (hh : 1 ≤ h)
include hw hh

/-! ## Order -/

theorem draw_right_comm (g : Grid w h) (o o' : Overlay) :
    ((g.draw o.x o.y o.rows).2.draw o'.x o'.y o'.rows).2 =
      ((g.draw o'.x o'.y o'.rows).2.draw o.x o.y o.rows).2 := by
  refine ext_litPixels ?_
  rw [litPixels_draw hw hh, litPixels_draw hw hh, litPixels_draw hw hh, litPixels_draw hw hh,
    symmDiff_right_comm]

/-- Drawings may change places. -/
theorem drawAll_perm (g : Grid w h) {os os' : List Overlay} (hperm : os.Perm os') :
    g.drawAll os = g.drawAll os' := by
  refine hperm.foldl_eq' ?_ g
  intro o _ o' _ g'
  exact draw_right_comm hw hh g' o o'

/-! ## Undoing -/

/-- Drawings that strike the same pixels undo each other. -/
theorem draw_draw (g : Grid w h) (o o' : Overlay)
    (hstruck : struck w h o.x o.y o.rows = struck w h o'.x o'.y o'.rows) :
    ((g.draw o.x o.y o.rows).2.draw o'.x o'.y o'.rows).2 = g := by
  refine ext_litPixels ?_
  rw [litPixels_draw hw hh, litPixels_draw hw hh, hstruck, symmDiff_symmDiff_cancel_right]

/-- Two drawings that strike the same pixels can be left out from anywhere. -/
theorem drawAll_cancel (g : Grid w h) {o o' : Overlay} (before between after : List Overlay)
    (hstruck : struck w h o.x o.y o.rows = struck w h o'.x o'.y o'.rows) :
    g.drawAll (before ++ o :: (between ++ o' :: after)) =
      g.drawAll (before ++ between ++ after) := by
  have hperm : (o :: (between ++ o' :: after)).Perm (o :: o' :: (between ++ after)) :=
    List.perm_middle.cons o
  calc g.drawAll (before ++ o :: (between ++ o' :: after))
      = (g.drawAll before).drawAll (o :: (between ++ o' :: after)) := drawAll_append g _ _
    _ = (g.drawAll before).drawAll (o :: o' :: (between ++ after)) := drawAll_perm hw hh _ hperm
    _ = (g.drawAll before).drawAll (between ++ after) :=
        congrArg (drawAll · (between ++ after)) (draw_draw hw hh _ o o' hstruck)
    _ = g.drawAll (before ++ between ++ after) := by
        rw [← drawAll_append, List.append_assoc]

/-! ## Hits -/

/-- A struck pixel is one on which a set bit falls that is not cut off. -/
theorem exists_struck_iff {x y : Int} {rows : List Int} {P : Nat → Nat → Prop} :
    (∃ p ∈ struck w h x y rows, P p.1 p.2) ↔
      ∃ i j : Nat, spriteBit rows i j ∧ wrap x w + i < w ∧ wrap y h + j < h ∧
        P (wrap x w + i) (wrap y h + j) := by
  have hx : ((wrap x w : Nat) : Int) = x % w := cast_wrap x hw
  have hy : ((wrap y h : Nat) : Int) = y % h := cast_wrap y hh
  constructor
  · rintro ⟨p, hp, hP⟩
    rw [mem_struck, ← hx, ← hy] at hp
    obtain ⟨⟨hpx, hpy⟩, hbit⟩ := hp
    obtain ⟨hi, -, hj, -⟩ := spriteBit_iff.mp hbit
    -- How far the pixel lies from the corner says which bit falls on it.
    obtain ⟨i, hi⟩ := Nat.exists_eq_add_of_le (m := wrap x w) (n := p.1) (by omega)
    obtain ⟨j, hj⟩ := Nat.exists_eq_add_of_le (m := wrap y h) (n := p.2) (by omega)
    have hcolumn : (p.1 : Int) - wrap x w = i := by omega
    have hrow : (p.2 : Int) - wrap y h = j := by omega
    rw [hcolumn, hrow] at hbit
    rw [hi, hj] at hP
    exact ⟨i, j, hbit, hi ▸ hpx, hj ▸ hpy, hP⟩
  · rintro ⟨i, j, hbit, hpx, hpy, hP⟩
    refine ⟨(wrap x w + i, wrap y h + j), mem_struck.mpr ⟨⟨hpx, hpy⟩, ?_⟩, hP⟩
    rw [Nat.cast_add, Nat.cast_add, hx, hy, add_sub_cancel_left, add_sub_cancel_left]
    exact hbit

/-- The second of two equal drawings hits the pixels that the first one has lit. -/
theorem fst_draw_again (g : Grid w h) (x y : Int) (rows : List Int) :
    ((g.draw x y rows).2.draw x y rows).1 ↔
      ∃ p ∈ struck w h x y rows, ¬g.lit p.1 p.2 := by
  rw [fst_draw hw hh]
  refine exists_congr fun p => and_congr_right fun hp => ?_
  rw [← mem_litPixels, litPixels_draw hw hh, mem_symmDiff, mem_litPixels]
  simp [hp]

end

/-- On a grid with pixels, whatever it shows: drawings may be made in any order, and two drawings of the
same rows at positions that are the same on the grid can be left out from anywhere, without a change to what
the grid shows in the end. So a sprite that is drawn twice in a row leaves no trace. The second of the two
drawings hits exactly if the sprite has a set bit that is not cut off and that falls on a pixel which was
dark before the first one. -/
theorem drawAll_exact (hw : 1 ≤ w) (hh : 1 ≤ h) (g : Grid w h) :
    (∀ os os' : List Overlay, os.Perm os' → g.drawAll os = g.drawAll os') ∧
    (∀ (before between after : List Overlay) (o o' : Overlay), o.rows = o'.rows →
      o.x ≡ o'.x [ZMOD w] → o.y ≡ o'.y [ZMOD h] →
      g.drawAll (before ++ o :: (between ++ o' :: after)) =
        g.drawAll (before ++ between ++ after)) ∧
    ∀ (x y : Int) (rows : List Int),
      let twice := (g.draw x y rows).2.draw x y rows
      twice.2 = g ∧
      (twice.1 = true ↔ ∃ i j : Nat, spriteBit rows i j ∧ wrap x w + i < w ∧ wrap y h + j < h ∧
        ¬g.lit (wrap x w + i) (wrap y h + j)) := by
  refine ⟨fun os os' hperm => drawAll_perm hw hh g hperm, ?_, ?_⟩
  · intro before between after o o' hrows hx hy
    exact drawAll_cancel hw hh g before between after (struck_congr hrows hx hy)
  · intro x y rows twice
    refine ⟨draw_draw hw hh g ⟨x, y, rows⟩ ⟨x, y, rows⟩ rfl, ?_⟩
    rw [fst_draw_again hw hh g x y rows]
    exact exists_struck_iff hw hh (P := fun px py => ¬g.lit px py)

/-- Three sprites on a grid with one lit pixel. Two of them strike the same pixels, so that the third one
alone remains; drawn twice, it hits the second time. -/
theorem drawAll_exact_wrapped :
    let g : Grid 3 2 := dark.flip 2 1
    let first : Overlay := ⟨1, 0, [0x80, 0x40]⟩
    let other : Overlay := ⟨-1, 3, [0xC0]⟩
    let again : Overlay := ⟨-5, 4, [0x80, 0x40]⟩
    g.drawAll [first, other, again] = g.drawAll [other] ∧
    g.drawAll [first, other] = g.drawAll [other, first] ∧
    ((g.draw 1 0 [0x80]).2.draw 1 0 [0x80]).2 = g ∧
    ((g.draw 1 0 [0x80]).2.draw 1 0 [0x80]).1 = true := by
  intro g first other again
  obtain ⟨hperm, hcancel, htwice⟩ := drawAll_exact (by decide) (by decide) g
  obtain ⟨hback, hhit⟩ := htwice 1 0 [0x80]
  refine ⟨?_, hperm _ _ (List.Perm.swap _ _ _), hback, hhit.mpr ⟨0, 0, ?_⟩⟩
  · exact hcancel [] [other] [] first again rfl (by decide) (by decide)
  · decide

/-- A sprite of one pixel that falls on a lit one: the first drawing darkens it, so that there is nothing
for the second one to hit, although the bit is set and not cut off. -/
theorem second_drawing_misses :
    let g : Grid 1 1 := (dark.draw 0 0 [0x80]).2
    let twice := (g.draw 0 0 [0x80]).2.draw 0 0 [0x80]
    ¬(twice.1 = true ↔
      ∃ i j : Nat, spriteBit [0x80] i j ∧ wrap 0 1 + i < 1 ∧ wrap 0 1 + j < 1) := by
  intro g twice hclaim
  have hmiss : twice.1 = false := by decide
  have hhit : twice.1 = true := hclaim.mpr ⟨0, 0, by decide⟩
  rw [hmiss] at hhit
  cases hhit

end ChipEight.Grid
