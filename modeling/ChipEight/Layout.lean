/-!
# Memory map and sizes

The fixed numbers of the machine: where programs, glyphs and the display sit and how large each
part is.

```
0x000  reserved; the glyphs of the hexadecimal digits start at `fontBase`
0x200  `programStart`: programs are loaded here
0xE8F  `programEnd`: first address past the loadable region
0xFFF  last cell
```
-/

namespace ChipEight.Layout

/-- Number of memory cells. -/
def memorySize : Nat := 0x1000

/-- Selects the cell that an address names: only its low twelve bits count. -/
def addressMask : Nat := memorySize - 1

/-- First cell of a loaded program. -/
def programStart : Nat := 0x200

/-- First cell past the region that programs may fill. -/
def programEnd : Nat := 0xE8F

/-- Size of the longest program that can be loaded. -/
def programCapacity : Nat := programEnd - programStart

/-- First cell of the digit glyphs. -/
def fontBase : Nat := 0x050

/-- Rows of one glyph. -/
def glyphHeight : Nat := 5

/-- Number of glyphs, one for each hexadecimal digit. -/
def glyphCount : Nat := 16

/-- Columns of the display. -/
def displayWidth : Nat := 64

/-- Rows of the display. -/
def displayHeight : Nat := 32

/-- Columns of a sprite: one byte is one row. -/
def spriteWidth : Nat := 8

/-- Number of general registers. -/
def registerCount : Nat := 16

/-- Number of keys. -/
def keyCount : Nat := 16

/-- Number of call stack slots. -/
def stackDepth : Nat := 16

/-- The register that receives carry, borrow and collision flags. -/
def flagRegister : Nat := 0xF

/-- Largest 16-bit word. -/
def wordMask : Nat := 0xFFFF

/-- Largest byte. -/
def byteMask : Nat := 0xFF

/-- Timer steps per second. -/
def tickRate : Nat := 60

/-- Instructions per second when nothing else is asked for. -/
def defaultSpeed : Nat := 500

/-- The sixteen glyphs, five rows each, from 0 to F. -/
def font : List UInt8 := [
  0xF0, 0x90, 0x90, 0x90, 0xF0,
  0x20, 0x60, 0x20, 0x20, 0x70,
  0xF0, 0x10, 0xF0, 0x80, 0xF0,
  0xF0, 0x10, 0xF0, 0x10, 0xF0,
  0x90, 0x90, 0xF0, 0x10, 0x10,
  0xF0, 0x80, 0xF0, 0x10, 0xF0,
  0xF0, 0x80, 0xF0, 0x90, 0xF0,
  0xF0, 0x10, 0x20, 0x40, 0x40,
  0xF0, 0x90, 0xF0, 0x90, 0xF0,
  0xF0, 0x90, 0xF0, 0x10, 0xF0,
  0xF0, 0x90, 0xF0, 0x90, 0x90,
  0xE0, 0x90, 0xE0, 0x90, 0xE0,
  0xF0, 0x80, 0x80, 0x80, 0xF0,
  0xE0, 0x90, 0x90, 0x90, 0xE0,
  0xF0, 0x80, 0xF0, 0x80, 0xF0,
  0xF0, 0x80, 0xF0, 0x80, 0x80]

/-- Where the glyph of a digit starts; only the low four bits of the digit count. -/
def glyphAddress (digit : Int) : Nat :=
  fontBase + (digit % 16).toNat * glyphHeight

theorem font_length : font.length = glyphCount * glyphHeight := rfl

/-- Every glyph lies inside the font. -/
theorem glyphAddress_lt (digit : Int) :
    fontBase ≤ glyphAddress digit ∧
      glyphAddress digit + glyphHeight ≤ fontBase + font.length := by
  have h : (digit % 16).toNat < 16 := by omega
  simp only [glyphAddress, font_length, glyphCount, glyphHeight, fontBase]
  omega

end ChipEight.Layout
