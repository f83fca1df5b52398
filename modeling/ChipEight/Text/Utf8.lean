import ChipEight.Number.Hex

/-!
# UTF-8

Strict decoding: a byte sequence that is not the shortest encoding of a character is refused, with
the place and the kind of the first fault.
-/

namespace ChipEight.Text

/-- What is wrong with a byte sequence. -/
inductive Utf8Problem where
  /-- No character starts with this byte. -/
  | start
  /-- A character is not continued as its first byte announces. -/
  | continuation
  /-- The bytes end inside a character. -/
  | ending
  deriving DecidableEq, Repr

/-- A fault: its kind, its place, and the bytes it covers. -/
structure Utf8Error where
  problem : Utf8Problem
  position : Nat
  bytes : List UInt8
  deriving DecidableEq, Repr

def Utf8Error.message (e : Utf8Error) : String :=
  let reason :=
    match e.problem with
    | .start => "invalid start byte"
    | .continuation => "invalid continuation byte"
    | .ending => "unexpected end of data"
  let place :=
    match e.bytes with
    | [b] => "byte 0x" ++ Hex.lower 2 b.toNat ++ " in position " ++ toString e.position
    | bs => "bytes in position " ++ toString e.position ++ "-" ++
        toString (e.position + bs.length - 1)
  "'utf-8' codec can't decode " ++ place ++ ": " ++ reason

/-- Bytes that follow the first byte of a character: how many, and the range of the first of them,
which excludes longer encodings than needed, surrogates and numbers that are too large. -/
def continuation? (b : UInt8) : Option (Nat × UInt8 × UInt8) :=
  if b < 0x80 then some (0, 0x80, 0xBF)
  else if 0xC2 ≤ b ∧ b ≤ 0xDF then some (1, 0x80, 0xBF)
  else if b = 0xE0 then some (2, 0xA0, 0xBF)
  else if b = 0xED then some (2, 0x80, 0x9F)
  else if 0xE1 ≤ b ∧ b ≤ 0xEF then some (2, 0x80, 0xBF)
  else if b = 0xF0 then some (3, 0x90, 0xBF)
  else if b = 0xF4 then some (3, 0x80, 0x8F)
  else if 0xF1 ≤ b ∧ b ≤ 0xF3 then some (3, 0x80, 0xBF)
  else none

/-- The longest run of at most `n` continuation bytes at the front; `low` and `high` bound the
first of them. -/
def continuationRun : Nat → UInt8 → UInt8 → List UInt8 → List UInt8
  | 0, _, _, _ => []
  | _ + 1, _, _, [] => []
  | n + 1, low, high, b :: bs =>
    if low ≤ b ∧ b ≤ high then b :: continuationRun n 0x80 0xBF bs else []

/-- The code point of a first byte with `n` continuation bytes. -/
def codePoint (first : UInt8) (rest : List UInt8) : Nat :=
  let lead :=
    match rest.length with
    | 0 => first.toNat
    | 1 => first.toNat % 0x20
    | 2 => first.toNat % 0x10
    | _ => first.toNat % 0x8
  rest.foldl (fun n b => 64 * n + b.toNat % 64) lead

/-- Decodes the bytes from a position on. The fuel is the number of bytes. -/
def decodeFrom : Nat → Nat → List UInt8 → Except Utf8Error (List Char)
  | _, _, [] => .ok []
  | 0, _, _ :: _ => .ok []
  | fuel + 1, position, b :: bs =>
    match continuation? b with
    | none => .error ⟨.start, position, [b]⟩
    | some (n, low, high) =>
      let run := continuationRun n low high bs
      if run.length = n then
        match decodeFrom fuel (position + n + 1) (bs.drop n) with
        | .ok cs => .ok (Char.ofNat (codePoint b run) :: cs)
        | .error e => .error e
      else
        let problem := if run.length = bs.length then .ending else .continuation
        .error ⟨problem, position, b :: run⟩

/-- Decodes a byte sequence. -/
def decodeUtf8 (bytes : List UInt8) : Except Utf8Error String :=
  match decodeFrom bytes.length 0 bytes with
  | .ok cs => .ok (String.ofList cs)
  | .error e => .error e

end ChipEight.Text
