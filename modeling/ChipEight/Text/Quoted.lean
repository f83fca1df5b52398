import ChipEight.Text.Class
import ChipEight.Number.Hex

/-!
# Quoted text

How a message shows a text: in single quotes, or in double quotes when the text has a single quote
and no double quote. Backslash, the chosen quote, tab, line feed and carriage return are escaped by
a letter; other characters that are not printable by their number.
-/

namespace ChipEight.Text

/-- The quote that `quoted` puts around a text. -/
def quoteFor (s : List Char) : Char := if '\'' ∈ s ∧ '"' ∉ s then '"' else '\''

/-- A character by its code point, in two, four or eight hexadecimal digits. -/
def numberEscape (c : Char) : List Char :=
  let n := c.toNat
  let (letter, width) := if n ≤ 0xFF then ('x', 2) else if n ≤ 0xFFFF then ('u', 4) else ('U', 8)
  '\\' :: letter :: (Hex.lower width n).toList

/-- One character inside the quotes. -/
def escapeChar (quote c : Char) : List Char :=
  if c = quote ∨ c = '\\' then ['\\', c]
  else if c = '\t' then ['\\', 't']
  else if c = '\n' then ['\\', 'n']
  else if c = '\r' then ['\\', 'r']
  else if isPrintable c then [c]
  else numberEscape c

/-- The text in quotes. -/
def quoted (s : String) : String :=
  let cs := s.toList
  let q := quoteFor cs
  String.ofList (q :: cs.flatMap (escapeChar q) ++ [q])

end ChipEight.Text
