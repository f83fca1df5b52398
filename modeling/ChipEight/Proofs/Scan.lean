import ChipEight.Display.Grid

/-!
# Drawing pixel by pixel

`Grid.draw` flips the set pixels of a sprite one after the other, and those outside the grid leave no
trace. `Grid.scan` goes through the pixels of the sprite in the same order and never looks outside the
grid: the first set pixel beyond the right edge ends its row, and the first row beyond the lower edge ends
the sprite. What is cut off in this way would have been dropped in any case (`Grid.scan_eq_draw`).
-/

namespace ChipEight.Grid

variable {w h : Nat}

/-- Draws the set pixels among those given of one sprite row. The flag says whether a lit pixel was met
so far. -/
def scanRow (g : Grid w h) (x y : Nat) (row : Int) : List Nat → Bool → Bool × Grid w h
  | [], hit => (hit, g)
  | k :: ks, hit =>
    if rowBit row k then
      if w ≤ x + k then (hit, g)
      else (g.flip (x + k) y).scanRow x y row ks (hit || g.lit (x + k) y)
    else g.scanRow x y row ks hit

/-- Draws the rows of a sprite. -/
def scanRows (g : Grid w h) (x y : Nat) : List Int → Bool → Bool × Grid w h
  | [], hit => (hit, g)
  | row :: rows, hit =>
    if h ≤ y then (hit, g)
    else
      let drawn := g.scanRow x y row (List.range 8) hit
      drawn.2.scanRows x (y + 1) rows drawn.1

/-- Draws a sprite, row by row and each from the left. -/
def scan (g : Grid w h) (x y : Int) (rows : List Int) : Bool × Grid w h :=
  g.scanRows (wrap x w) (wrap y h) rows false

/-- The pixels of a row from the `k`th one on. -/
theorem scanRow_eq_plot (g : Grid w h) (x y : Nat) (row : Int) (k n : Nat) (hit : Bool) :
    g.scanRow x y row (List.range' k n) hit =
      let drawn := g.plot (((List.range' k n).filter (rowBit row)).map fun k => (x + k, y))
      (hit || drawn.1, drawn.2) := by
  induction n generalizing g k hit with
  | zero => simp [scanRow, plot]
  | succ n ih =>
    rw [List.range'_succ, scanRow]
    by_cases hbit : rowBit row k
    · rw [if_pos hbit, List.filter_cons_of_pos hbit]
      by_cases hx : w ≤ x + k
      · -- This pixel and all later ones lie beyond the right edge.
        have hout : g.plot
            ((k :: (List.range' (k + 1) n).filter (rowBit row)).map fun k => (x + k, y)) =
            (false, g) := by
          refine g.plot_outside fun p hp => .inl ?_
          simp only [List.mem_map, List.mem_cons, List.mem_filter, List.mem_range'_1] at hp
          obtain ⟨j, hj, rfl⟩ := hp
          show w ≤ x + j
          omega
        rw [if_pos hx, hout]
        simp
      · rw [if_neg hx, ih]
        simp [plot, Bool.or_assoc]
    · rw [if_neg hbit, List.filter_cons_of_neg hbit]
      exact ih g (k + 1) hit

theorem scanRows_eq_plot (g : Grid w h) (x y : Nat) (rows : List Int) (hit : Bool) :
    g.scanRows x y rows hit =
      let drawn := g.plot (spritePixels x y rows)
      (hit || drawn.1, drawn.2) := by
  induction rows generalizing g y hit with
  | nil => simp [scanRows, spritePixels, plot]
  | cons row rows ih =>
    rw [scanRows]
    by_cases hy : h ≤ y
    · -- This row and all later ones lie beyond the lower edge.
      have hout : g.plot (spritePixels x y (row :: rows)) = (false, g) := by
        refine g.plot_outside fun p hp => .inr ?_
        have hp := le_of_mem_spritePixels hp
        omega
      rw [if_pos hy, hout]
      simp
    · rw [if_neg hy]
      simp only [ih, List.range_eq_range', scanRow_eq_plot, spritePixels, rowPixels, plot_append,
        Bool.or_assoc]

/-- Going through a sprite and stopping at the edges draws it. -/
theorem scan_eq_draw (g : Grid w h) (x y : Int) (rows : List Int) :
    g.scan x y rows = g.draw x y rows := by
  rw [scan, scanRows_eq_plot, draw]
  simp

end ChipEight.Grid
