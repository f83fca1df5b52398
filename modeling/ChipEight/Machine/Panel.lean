import ChipEight.Display.Picture
import ChipEight.Machine.State

/-!
# Debug panel

A picture of the display with the registers written below it. The panel is described by its
background with the display on it, and by the lines of text to be written and where.
-/

namespace ChipEight

/-- How a display is drawn: the size of a pixel and the two colours. -/
structure Renderer where
  scale : Nat
  background : Colour := .black
  foreground : Colour := .white
  deriving DecidableEq, Repr

namespace Renderer

/-- What is said about a scale below one. -/
def badScaleText (scale : Int) : String := "Scale must be at least 1: " ++ toString scale

/-- A renderer; `none` for a scale below one. -/
def make? (scale : Int) (background foreground : Colour) : Option Renderer :=
  if scale < 1 then none else some ⟨scale.toNat, background, foreground⟩

/-- The picture of a grid. -/
def render {w h : Nat} (r : Renderer) (g : Grid w h) : Picture (w * r.scale) (h * r.scale) :=
  g.image r.scale r.foreground r.background

end Renderer

/-- One line of text at a position, its colour aside. -/
structure Label where
  x : Nat
  y : Nat
  text : String
  deriving DecidableEq, Repr

namespace Panel

/-- Space around the display. -/
def border : Nat := 10

/-- Distance of two lines of text. -/
def lineHeight : Nat := 14

/-- Eight general registers, from the one with the given number. -/
def registerLine (m : Machine) (first : Nat) : String :=
  " ".intercalate <| (List.range 8).map fun k =>
    let r : Register := .ofNat (first + k)
    "V" ++ Hex.upper 1 r.val ++ "=" ++ Hex.upper 2 (m.reg r).toNat

/-- The lines of text. -/
def lines (m : Machine) : List String :=
  let letters := m.settings.letters
  [ registerLine m 0x0,
    registerLine m 0x8,
    "PC=" ++ Hex.upper 4 m.pc.toNat ++ "  I=" ++ Hex.upper 4 m.i.toNat ++
      "  SP=" ++ Hex.upper 1 m.stack.depth.val,
    "DT=" ++ Hex.upper 2 m.delay.toNat ++ "  ST=" ++ Hex.upper 2 m.sound.toNat ++
      "  quirks=" ++ (if letters = "" then "-" else letters) ]

/-- Height of the text below the display. -/
def textHeight : Nat := 4 * lineHeight + border

/-- The width of the panel. -/
def width (r : Renderer) : Nat := Layout.displayWidth * r.scale + 2 * border

/-- The height of the panel. -/
def height (r : Renderer) : Nat := Layout.displayHeight * r.scale + 2 * border + textHeight

/-- The panel before its text is written: the display on a white background. -/
def picture (m : Machine) (r : Renderer) : Picture (width r) (height r) :=
  (Picture.plain _ _ .white).paste border border (r.render m.display)

/-- The lines of text and where they are written, in black. -/
def labels (m : Machine) (r : Renderer) : List Label :=
  (lines m).mapIdx fun k text =>
    ⟨border, Layout.displayHeight * r.scale + border + border / 2 + k * lineHeight, text⟩

end Panel

end ChipEight
