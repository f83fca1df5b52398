import ChipEight.Json.Basic
import ChipEight.Number.Hex
import ChipEight.Number.Numeral

/-!
# Reading JSON

A reader for JSON texts that also accepts `NaN`, `Infinity` and `-Infinity`. Of two members of one
name the last value counts. A byte order mark and control characters inside strings are refused.

Each part of the grammar is a function from the characters left to a value and what is left after
it; an error carries the characters left at its place, from which `read` computes the position.
-/

namespace ChipEight.Json

/-- What can be wrong with a text. -/
inductive Problem where
  | byteOrderMark
  | expectedValue
  | expectedName
  | expectedColon
  | expectedComma
  | extraData
  | unterminatedString
  | controlCharacter
  | badEscape
  | badUnitEscape
  /-- An integer has more digits than are converted. -/
  | tooManyDigits (count : Nat)
  deriving DecidableEq, Repr

/-- A problem and the number of characters before it. -/
structure ReadError where
  problem : Problem
  line : Nat
  column : Nat
  position : Nat
  deriving DecidableEq, Repr

/-- The wording of a problem. -/
def Problem.text : Problem → String
  | byteOrderMark => "Unexpected UTF-8 BOM (decode using utf-8-sig)"
  | expectedValue => "Expecting value"
  | expectedName => "Expecting property name enclosed in double quotes"
  | expectedColon => "Expecting ':' delimiter"
  | expectedComma => "Expecting ',' delimiter"
  | extraData => "Extra data"
  | unterminatedString => "Unterminated string starting at"
  | controlCharacter => "Invalid control character at"
  | badEscape => "Invalid \\escape"
  | badUnitEscape => "Invalid \\uXXXX escape"
  | tooManyDigits count => Numeral.tooLongText count

def ReadError.message (e : ReadError) : String :=
  match e.problem with
  | .tooManyDigits _ => e.problem.text
  | _ => e.problem.text ++ ": line " ++ toString e.line ++ " column " ++ toString e.column ++
      " (char " ++ toString e.position ++ ")"

/-- A problem and the characters left where it was found. -/
abbrev Failed := Problem × List Char

/-! ## Blanks, numbers and strings -/

def isSpace (c : Char) : Bool := c == ' ' || c == '\n' || c == '\t' || c == '\r'

/-- Drops blanks. -/
def skip (s : List Char) : List Char := s.dropWhile isSpace

def isDigit (c : Char) : Bool := '0' ≤ c && c ≤ '9'

/-- The decimal number of ASCII digits. -/
def decimal (ds : List Char) : Nat := Nat.ofDigitChars 10 ds 0

/-- The digits of the whole part: a zero, or digits that do not start with one. -/
def whole? : List Char → Option (List Char × List Char)
  | '0' :: rest => some (['0'], rest)
  | s =>
    let ds := s.takeWhile isDigit
    if ds.isEmpty then none else some (ds, s.dropWhile isDigit)

/-- The digits after a point; the point belongs to the number only if a digit follows. -/
def fractionPart : List Char → List Char × List Char
  | '.' :: rest =>
    let ds := rest.takeWhile isDigit
    if ds.isEmpty then ([], '.' :: rest) else (ds, rest.dropWhile isDigit)
  | s => ([], s)

/-- The exponent after its mark; the mark belongs to the number only if digits follow. -/
def exponentPart (s : List Char) : Option Int × List Char :=
  match s with
  | c :: rest =>
    if c == 'e' || c == 'E' then
      let (negative, body) := Numeral.splitSign rest
      let ds := body.takeWhile isDigit
      if ds.isEmpty then (none, s)
      else
        let n := decimal ds
        (some (if negative then -(n : Int) else n), body.dropWhile isDigit)
    else (none, s)
  | [] => (none, s)

/-- A number whose sign has been read; `none` if none starts here. A point or an exponent makes
it a double. -/
def unsigned? (negative : Bool) (s : List Char) : Option (Except Failed (Json × List Char)) :=
  match whole? s with
  | none => none
  | some (ds, afterWhole) =>
    let (fs, afterFraction) := fractionPart afterWhole
    let (e?, rest) := exponentPart afterFraction
    if fs.isEmpty && e?.isNone then
      if Numeral.maxDigits < ds.length then some (.error (.tooManyDigits ds.length, s))
      else some (.ok (int (if negative then -(decimal ds : Int) else decimal ds), rest))
    else
      let x := Binary64.ofDecimal negative (decimal (ds ++ fs)) (e?.getD 0 - fs.length)
      some (.ok (num (.float x), rest))

/-- Drops a word from the front. -/
def dropWord? : List Char → List Char → Option (List Char)
  | [], s => some s
  | w :: ws, c :: s => if w = c then dropWord? ws s else none
  | _ :: _, [] => none

/-- A UTF-16 unit written with four hexadecimal digits. -/
def unit? (a b c d : Char) : Option Nat := Hex.number? [a, b, c, d]

/-- The first half of a pair of units. -/
def isHigh (n : Nat) : Bool := 0xD800 ≤ n && n < 0xDC00

/-- The second half of a pair of units. -/
def isLow (n : Nat) : Bool := 0xDC00 ≤ n && n < 0xE000

/-- The characters of units and code points: two halves that meet are one character, a half on
its own becomes the replacement character. -/
def joinUnits : List Nat → List Char
  | [] => []
  | [n] => [if isHigh n || isLow n then '\uFFFD' else Char.ofNat n]
  | n :: m :: rest =>
    if isHigh n && isLow m then
      Char.ofNat (0x10000 + (n - 0xD800) * 0x400 + (m - 0xDC00)) :: joinUnits rest
    else (if isHigh n || isLow n then '\uFFFD' else Char.ofNat n) :: joinUnits (m :: rest)

/-- The character of an escape of one letter. -/
def escaped? : Char → Option Char
  | '"' => some '"'
  | '\\' => some '\\'
  | '/' => some '/'
  | 'b' => some '\x08'
  | 'f' => some '\x0c'
  | 'n' => some '\n'
  | 'r' => some '\r'
  | 't' => some '\t'
  | _ => none

/-- Puts a unit in front of the units read after it. -/
def consUnit (n : Nat) :
    Except Failed (List Nat × List Char) → Except Failed (List Nat × List Char)
  | .ok (ns, left) => .ok (n :: ns, left)
  | .error e => .error e

/-- The rest of a string literal after its opening quote, as units and code points. `opening` is
what was left at that quote. An escape by number must not be the last thing in the text. -/
def units (opening : List Char) : List Char → Except Failed (List Nat × List Char)
  | [] => .error (.unterminatedString, opening)
  | '"' :: rest => .ok ([], rest)
  | '\\' :: 'u' :: a :: b :: c :: d :: rest =>
    -- There must be something after the digits, if only the closing quote.
    match unit? a b c d, rest.isEmpty with
    | some n, false => consUnit n (units opening rest)
    | _, _ => .error (.badUnitEscape, 'u' :: a :: b :: c :: d :: rest)
  | '\\' :: c :: rest =>
    match escaped? c with
    | none =>
      if c = 'u' then .error (.badUnitEscape, c :: rest)
      else .error (.badEscape, '\\' :: c :: rest)
    | some x => consUnit x.toNat (units opening rest)
  | '\\' :: [] => .error (.unterminatedString, opening)
  | c :: rest =>
    if c.toNat < 0x20 then .error (.controlCharacter, c :: rest)
    else consUnit c.toNat (units opening rest)

/-- The text of a string literal, from its opening quote on. -/
def string (opening rest : List Char) : Except Failed (String × List Char) :=
  match units opening rest with
  | .ok (ns, left) => .ok (String.ofList (joinUnits ns), left)
  | .error e => .error e

/-- A value that is one word. -/
def word (w : String) (v : Json) (s : List Char) : Except Failed (Json × List Char) :=
  match dropWord? w.toList s with
  | some rest => .ok (v, rest)
  | none => .error (.expectedValue, s)

/-- A value that is no container. -/
def scalar (s : List Char) : Except Failed (Json × List Char) :=
  match s with
  | '"' :: rest =>
    match string s rest with
    | .ok (t, left) => .ok (str t, left)
    | .error e => .error e
  | 'n' :: _ => word "null" null s
  | 't' :: _ => word "true" (bool true) s
  | 'f' :: _ => word "false" (bool false) s
  | 'N' :: _ => word "NaN" (num (.float (.nan false))) s
  | 'I' :: _ => word "Infinity" (num (.float (.infinite false))) s
  | '-' :: 'I' :: _ => word "-Infinity" (num (.float (.infinite true))) s
  | '-' :: rest => (unsigned? true rest).getD (.error (.expectedValue, s))
  | _ => (unsigned? false s).getD (.error (.expectedValue, s))

/-! ## Containers -/

mutual

/-- A value. The fuel bounds the number of calls; `document` gives enough for any text. -/
def value : Nat → List Char → Except Failed (Json × List Char)
  | 0, s => .error (.expectedValue, s)
  | fuel + 1, s =>
    match s with
    | '[' :: rest =>
      match skip rest with
      | ']' :: left => .ok (arr [], left)
      | left =>
        match items fuel left with
        | .ok (xs, left) => .ok (arr xs, left)
        | .error e => .error e
    | '\x7b' :: rest =>
      match skip rest with
      | '\x7d' :: left => .ok (obj [], left)
      | left =>
        match members fuel [] left with
        | .ok (ms, left) => .ok (obj ms, left)
        | .error e => .error e
    | _ => scalar s

/-- The items of a list up to its closing bracket. -/
def items : Nat → List Char → Except Failed (List Json × List Char)
  | 0, s => .error (.expectedValue, s)
  | fuel + 1, s =>
    match value fuel s with
    | .error e => .error e
    | .ok (x, left) =>
      match skip left with
      | ']' :: left => .ok ([x], left)
      | ',' :: left =>
        match items fuel (skip left) with
        | .ok (xs, left) => .ok (x :: xs, left)
        | .error e => .error e
      | left => .error (.expectedComma, left)

/-- The members of an object up to its closing brace, added to those before them. -/
def members :
    Nat → List (String × Json) → List Char → Except Failed (List (String × Json) × List Char)
  | 0, _, s => .error (.expectedName, s)
  | fuel + 1, before, s =>
    match s with
    | '"' :: rest =>
      match string s rest with
      | .error e => .error e
      | .ok (name, left) =>
        match skip left with
        | ':' :: left =>
          match value fuel (skip left) with
          | .error e => .error e
          | .ok (x, left) =>
            match skip left with
            | '\x7d' :: left => .ok (insert before name x, left)
            | ',' :: left => members fuel (insert before name x) (skip left)
            | left => .error (.expectedComma, left)
        | left => .error (.expectedColon, left)
    | _ => .error (.expectedName, s)

end

/-- A whole text: one value with blanks around it. -/
def document (s : List Char) : Except Failed Json :=
  match s with
  | '\uFEFF' :: _ => .error (.byteOrderMark, s)
  | _ =>
    match value (2 * s.length + 2) (skip s) with
    | .error e => .error e
    | .ok (v, left) =>
      match skip left with
      | [] => .ok v
      | left => .error (.extraData, left)

/-- Line, column and number of characters before a place. Lines and columns count from 1. -/
def place (s left : List Char) (problem : Problem) : ReadError :=
  let before := s.take (s.length - left.length)
  { problem
    line := before.count '\n' + 1
    column := (before.reverse.takeWhile (· != '\n')).length + 1
    position := before.length }

/-- Reads a text. -/
def read (text : String) : Except ReadError Json :=
  match document text.toList with
  | .ok v => .ok v
  | .error (problem, left) => .error (place text.toList left problem)

end ChipEight.Json
