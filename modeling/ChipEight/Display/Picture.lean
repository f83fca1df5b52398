import ChipEight.Display.Grid

/-!
# Pictures

Coloured pictures of a grid: `Grid.picture` gives one pixel for each pixel of the grid,
`Picture.magnify` makes each pixel a square, `Picture.paste` puts one picture onto another.
-/

namespace ChipEight

/-- A colour by its red, green and blue parts. -/
structure Colour where
  red : UInt8
  green : UInt8
  blue : UInt8
  deriving DecidableEq, Repr, Inhabited

namespace Colour

def white : Colour := ⟨255, 255, 255⟩

def black : Colour := ⟨0, 0, 0⟩

end Colour

/-- A picture of `h` rows of `w` pixels. -/
structure Picture (w h : Nat) where
  rows : Vector (Vector Colour w) h
  deriving DecidableEq, Repr

namespace Picture

variable {w h : Nat}

/-- The colour in column `x` of row `y`; `none` outside the picture. -/
def colour? (p : Picture w h) (x y : Nat) : Option Colour := p.rows[y]?.bind (·[x]?)

/-- A picture of one colour. -/
def plain (w h : Nat) (c : Colour) : Picture w h :=
  ⟨Vector.replicate h (Vector.replicate w c)⟩

/-- Repeats each entry `z` times. -/
def stretch {α : Type} {n : Nat} (z : Nat) (v : Vector α n) : Vector α (n * z) :=
  Vector.ofFn fun i => v.get ⟨i / z, Nat.div_lt_of_lt_mul (Nat.mul_comm n z ▸ i.isLt)⟩

/-- Makes each pixel a square of `z` by `z` pixels. -/
def magnify (z : Nat) (p : Picture w h) : Picture (w * z) (h * z) :=
  ⟨stretch z (p.rows.map (stretch z))⟩

/-- Puts `p` onto `base`, its upper left corner at column `x` of row `y`. What lies outside is
dropped. -/
def paste {w' h' : Nat} (base : Picture w h) (x y : Nat) (p : Picture w' h') : Picture w h :=
  ⟨base.rows.mapFinIdx fun j row _ =>
    if y ≤ j ∧ j < y + h' then
      row.mapFinIdx fun i c _ => if i < x then c else (p.colour? (i - x) (j - y)).getD c
    else row⟩

end Picture

/-- One pixel for each pixel of the grid. -/
def Grid.picture {w h : Nat} (g : Grid w h) (onColour offColour : Colour) : Picture w h :=
  ⟨g.rows.map fun row => row.map fun p => if p then onColour else offColour⟩

/-- The grid as a picture in which each pixel is a square. -/
def Grid.image {w h : Nat} (g : Grid w h) (zoom : Nat) (onColour offColour : Colour) :
    Picture (w * zoom) (h * zoom) :=
  (g.picture onColour offColour).magnify zoom

/-- Can a grid of this size be magnified by this factor? The factor must be positive, and only a
picture that has pixels can be made larger. -/
def Grid.canMagnify (w h : Nat) (zoom : Int) : Bool :=
  zoom == 1 || (0 < zoom && 0 < w && 0 < h)

/-! ## Run lengths -/

/-- Puts an entry in front of runs. -/
def addToRuns {α : Type} [DecidableEq α] (a : α) : List (Nat × α) → List (Nat × α)
  | (n, b) :: rest => if a = b then (n + 1, b) :: rest else (1, a) :: (n, b) :: rest
  | [] => [(1, a)]

/-- Groups equal neighbours: each entry with the number of times it follows itself. -/
def runLengths {α : Type} [DecidableEq α] (as : List α) : List (Nat × α) := as.foldr addToRuns []

/-- The rows of a picture by run lengths, equal neighbouring rows grouped. -/
def Picture.runs {w h : Nat} (p : Picture w h) : List (Nat × List (Nat × Colour)) :=
  runLengths (p.rows.toList.map fun row => runLengths row.toList)

end ChipEight
