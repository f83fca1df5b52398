/-!
# Pixel grid

A grid of pixels that are lit or dark. Sprites are drawn by flipping pixels: a sprite starts at a
position that wraps around the grid, and its pixels beyond the right and lower edge are dropped.

`Grid.lit` is the view of a grid; every operation is described by what it does to it.
-/

namespace ChipEight

/-- A grid of `h` rows of `w` pixels. -/
structure Grid (w h : Nat) where
  rows : Vector (Vector Bool w) h
  deriving DecidableEq, Repr

namespace Grid

variable {w h : Nat}

/-- All pixels are dark. -/
def dark : Grid w h := ⟨Vector.replicate h (Vector.replicate w false)⟩

instance : Inhabited (Grid w h) := ⟨dark⟩

/-- Is the pixel in column `x` and row `y` lit? There are no lit pixels outside the grid. -/
def lit (g : Grid w h) (x y : Nat) : Bool :=
  if hy : y < h then if hx : x < w then (g.rows[y])[x] else false else false

/-- Switches one pixel over; nothing happens outside the grid. -/
def flip (g : Grid w h) (x y : Nat) : Grid w h :=
  if hy : y < h then
    if hx : x < w then
      let row := g.rows[y]
      ⟨g.rows.set y (row.set x (!row[x]))⟩
    else g
  else g

/-- Number of lit pixels. -/
def litCount (g : Grid w h) : Nat := (g.rows.toList.flatMap fun row => row.toList).count true

/-- The pixels as numbers, 1 for a lit one and 0 for a dark one. -/
def buffer (g : Grid w h) : Vector (Vector UInt8 w) h :=
  g.rows.map fun row => row.map fun p => if p then 1 else 0

/-- Switching a pixel over changes that pixel alone. -/
theorem lit_flip (g : Grid w h) {x y : Nat} (hx : x < w) (hy : y < h) (i j : Nat) :
    (g.flip x y).lit i j = if i = x ∧ j = y then !g.lit i j else g.lit i j := by
  simp only [flip, lit, hx, hy, dite_true]
  by_cases hj : j < h
  · by_cases hi : i < w
    · simp only [hi, hj, dite_true, Vector.getElem_set]
      by_cases ey : y = j
      · subst ey
        by_cases ex : x = i
        · subst ex
          simp
        · simp [ex, Ne.symm ex]
      · simp [ey, Ne.symm ey]
    · have : ¬(i = x ∧ j = y) := fun e => hi (e.1 ▸ hx)
      simp [hi, hj, this]
  · have : ¬(i = x ∧ j = y) := fun e => hj (e.2 ▸ hy)
    simp [hj, this]

@[simp]
theorem lit_dark (i j : Nat) : (dark : Grid w h).lit i j = false := by
  simp only [dark, lit]
  split
  · split
    · simp
    · rfl
  · rfl

/-- A grid is known by its pixels. -/
theorem ext_lit {g g' : Grid w h} (hlit : ∀ i j, i < w → j < h → g.lit i j = g'.lit i j) :
    g = g' := by
  obtain ⟨rows⟩ := g
  obtain ⟨rows'⟩ := g'
  congr 1
  apply Vector.ext
  intro j hj
  apply Vector.ext
  intro i hi
  have h := hlit i j hi hj
  simpa only [lit, hi, hj, dite_true] using h

/-! ## Sprites -/

/-- Is pixel `k` of a sprite row, counted from the left, set? A negative row is taken in two's
complement, and only the low eight bits of a row count. -/
def rowBit (row : Int) (k : Nat) : Bool := (row >>> (7 - k)) % 2 == 1

/-- The set pixels of one sprite row that starts in column `x` of row `y`. -/
def rowPixels (x y : Nat) (row : Int) : List (Nat × Nat) :=
  ((List.range 8).filter (rowBit row)).map fun k => (x + k, y)

/-- The set pixels of a sprite whose first row starts at column `x` of row `y`. -/
def spritePixels (x y : Nat) : List Int → List (Nat × Nat)
  | [] => []
  | row :: rows => rowPixels x y row ++ spritePixels x (y + 1) rows

/-- Flips pixels one after the other. The flag says whether one of them was lit. -/
def plot (g : Grid w h) : List (Nat × Nat) → Bool × Grid w h
  | [] => (false, g)
  | (x, y) :: ps =>
    let hit := g.lit x y
    let (more, g) := (g.flip x y).plot ps
    (hit || more, g)

/-- Pixels drawn in two parts are drawn one part after the other. -/
theorem plot_append (g : Grid w h) (ps qs : List (Nat × Nat)) :
    g.plot (ps ++ qs) =
      ((g.plot ps).1 || ((g.plot ps).2.plot qs).1, ((g.plot ps).2.plot qs).2) := by
  induction ps generalizing g with
  | nil => simp [plot]
  | cons p ps ih => simp [plot, ih, Bool.or_assoc]

/-- Pixels outside the grid leave no trace. -/
theorem plot_outside (g : Grid w h) {ps : List (Nat × Nat)} (hps : ∀ p ∈ ps, w ≤ p.1 ∨ h ≤ p.2) :
    g.plot ps = (false, g) := by
  induction ps with
  | nil => rfl
  | cons p ps ih =>
    obtain ⟨x, y⟩ := p
    have hp := hps (x, y) List.mem_cons_self
    have hlit : g.lit x y = false := by
      unfold lit
      split
      · split
        · simp only at hp
          omega
        · rfl
      · rfl
    have hflip : g.flip x y = g := by
      unfold flip
      split
      · split
        · simp only at hp
          omega
        · rfl
      · rfl
    simp [plot, hlit, hflip, ih fun q hq => hps q (List.mem_cons_of_mem _ hq)]

theorem le_of_mem_spritePixels {x y : Nat} {rows : List Int} {p : Nat × Nat}
    (hp : p ∈ spritePixels x y rows) : y ≤ p.2 := by
  induction rows generalizing y with
  | nil => cases hp
  | cons row rows ih =>
    rw [spritePixels, List.mem_append] at hp
    rcases hp with hp | hp
    · obtain ⟨k, -, rfl⟩ := List.mem_map.mp hp
      exact Nat.le_refl y
    · have := ih hp
      omega

/-- Where a coordinate lands when it wraps around `n` places. -/
def wrap (a : Int) (n : Nat) : Nat := (a % n).toNat

/-- Draws a sprite. The flag says whether a lit pixel was switched off. -/
def draw (g : Grid w h) (x y : Int) (rows : List Int) : Bool × Grid w h :=
  g.plot (spritePixels (wrap x w) (wrap y h) rows)

/-- Is the pixel lit whose position wraps around the grid? -/
def pixel (g : Grid w h) (x y : Int) : Bool := g.lit (wrap x w) (wrap y h)

/-- `draw` on a grid of any size: a grid without pixels has no position to start at. -/
def draw? (g : Grid w h) (x y : Int) (rows : List Int) : Option (Bool × Grid w h) :=
  if w = 0 ∨ h = 0 then none else some (g.draw x y rows)

/-- `pixel` on a grid of any size. -/
def pixel? (g : Grid w h) (x y : Int) : Option Bool :=
  if w = 0 ∨ h = 0 then none else some (g.pixel x y)

/-! ## Text -/

/-- The line above and below the rows. -/
def border (w : Nat) : String := "+" ++ String.ofList (List.replicate w '-') ++ "+"

/-- One row as text. -/
def rowText (onText offText : String) (row : Vector Bool w) : String :=
  "|" ++ String.join (row.toList.map fun p => if p then onText else offText) ++ "|"

/-- The grid as text in a frame, one line for each row. -/
def text (g : Grid w h) (onText offText : String) : String :=
  "\n".intercalate ([border w] ++ g.rows.toList.map (rowText onText offText) ++ [border w])

end Grid

end ChipEight
