import ChipEight.Display.Picture

/-!
# Portable network graphics

Pictures as the bytes of a PNG file. Every colour takes three bytes, every row follows a zero that
says it is not filtered, and the rows are stored in blocks without compression, so that a reader
finds each pixel at a place that its position alone decides.

The file is a signature and three chunks: header, data, end. A chunk carries a cyclic check sum,
the data inside it a running sum of its own.
-/

namespace ChipEight.Png

/-! ## Check sums -/

/-- One bit of the cyclic check sum. -/
def crcBit (c : UInt32) : UInt32 := if c &&& 1 = 1 then (c >>> 1) ^^^ 0xEDB88320 else c >>> 1

/-- One byte of the cyclic check sum. -/
def crcByte (c : UInt32) (b : UInt8) : UInt32 :=
  crcBit <| crcBit <| crcBit <| crcBit <| crcBit <| crcBit <| crcBit <| crcBit <| c ^^^ b.toUInt32

/-- The cyclic check sum of a chunk. -/
def crc (bytes : ByteArray) : UInt32 := bytes.foldl crcByte 0xFFFFFFFF ^^^ 0xFFFFFFFF

/-- The two sums that run over the data: of the bytes, and of these sums. -/
def runningSums (bytes : ByteArray) : UInt32 × UInt32 :=
  bytes.foldl (fun (a, b) x => let a := (a + x.toUInt32) % 65521; (a, (b + a) % 65521)) (1, 0)

/-- The check sum of the data. -/
def adler (bytes : ByteArray) : UInt32 :=
  let (a, b) := runningSums bytes
  b <<< 16 ||| a

/-! ## Chunks -/

/-- Four bytes, the highest one first. -/
def bigEndian (n : UInt32) : ByteArray :=
  ⟨#[(n >>> 24).toUInt8, (n >>> 16).toUInt8, (n >>> 8).toUInt8, n.toUInt8]⟩

/-- A chunk: length, name, content, check sum of name and content. -/
def chunk (name : String) (content : ByteArray) : ByteArray :=
  let body := name.toUTF8 ++ content
  bigEndian (UInt32.ofNat content.size) ++ body ++ bigEndian (crc body)

/-- Size of the largest stored block. -/
def blockSize : Nat := 65535

/-- Block `k` of `count`: whether it is the last one, its length and the complement of that, the
low byte first, and its bytes. -/
def block (bytes : ByteArray) (count k : Nat) : ByteArray :=
  let content := bytes.extract (k * blockSize) ((k + 1) * blockSize)
  let n := UInt16.ofNat content.size
  let rest := blockSize.toUInt16 - n
  ⟨#[if k + 1 = count then 1 else 0, n.toUInt8, (n >>> 8).toUInt8,
    rest.toUInt8, (rest >>> 8).toUInt8]⟩ ++ content

/-- Stores bytes in blocks, with the two leading bytes and the check sum of the data format. -/
def store (bytes : ByteArray) : ByteArray :=
  let count := max 1 ((bytes.size + blockSize - 1) / blockSize)
  let blocks := (List.range count).foldl (fun out k => out ++ block bytes count k) ⟨#[0x78, 0x01]⟩
  blocks ++ bigEndian (adler bytes)

/-! ## Pictures -/

variable {w h : Nat}

/-- The rows of a picture, each one after a zero. -/
def rows (p : Picture w h) : ByteArray :=
  p.rows.foldl (fun out row =>
    row.foldl (fun out c => ((out.push c.red).push c.green).push c.blue) (out.push 0)) .empty

/-- The header: size, eight bits for each part of a colour, three parts to a pixel, and the only
ways there are to compress, to filter and to order the rows. -/
def header (w h : Nat) : ByteArray :=
  bigEndian (UInt32.ofNat w) ++ bigEndian (UInt32.ofNat h) ++ ⟨#[8, 2, 0, 0, 0]⟩

/-- The bytes that every file starts with. -/
def signature : ByteArray := ⟨#[0x89, 0x50, 0x4E, 0x47, 0x0D, 0x0A, 0x1A, 0x0A]⟩

/-- A picture as a file. -/
def encode (p : Picture w h) : ByteArray :=
  signature ++ chunk "IHDR" (header w h) ++ chunk "IDAT" (store (rows p)) ++ chunk "IEND" .empty

end ChipEight.Png
