/-!
# Seeded generator

A permuted congruential generator with 128 bits of state. The seed, a natural number of any size,
is first spread over a pool of four 32-bit words by hashing, and the state is drawn from the pool.
Each 64-bit output gives two bytes: the top byte of its low half, then its top byte.
-/

namespace ChipEight

/-- The state of a generator and the byte that is left of its last output. -/
structure Pcg where
  state : BitVec 128
  increment : BitVec 128
  spare : Option UInt8
  deriving DecidableEq, Repr, Inhabited

namespace Pcg

/-! ## Spreading the seed -/

/-- The 32-bit words of a number, least significant first; one word for zero. -/
def seedWords (n : Nat) : List UInt32 :=
  if _h : n < 0x100000000 then [UInt32.ofNat n]
  else UInt32.ofNat n :: seedWords (n / 0x100000000)
termination_by n

/-- Four words under construction and the running hash constant. -/
structure Pool where
  words : Vector UInt32 4
  hash : UInt32

/-- The bound of a place in the pool, by a name of its own. -/
theorem place_lt (d : Fin 4) : d.val < 4 := d.isLt

/-- Hashes a word with the running constant, which moves on. -/
def hashMix (hash v : UInt32) : UInt32 × UInt32 :=
  let v := v ^^^ hash
  let hash := hash * 0x931e8875
  let v := v * hash
  (v ^^^ (v >>> 16), hash)

/-- Mixes a hashed word into a word of the pool. -/
def mix (x y : UInt32) : UInt32 :=
  let r := 0xca01f9dd * x - 0x4973f715 * y
  r ^^^ (r >>> 16)

/-- Puts a hashed word in a place of the pool. -/
def Pool.fill (p : Pool) (d : Fin 4) (v : UInt32) : Pool :=
  let (h, hash) := hashMix p.hash v
  ⟨p.words.set d.val h (place_lt d), hash⟩

/-- Mixes a word into a place of the pool. -/
def Pool.stir (p : Pool) (d : Fin 4) (v : UInt32) : Pool :=
  let (h, hash) := hashMix p.hash v
  ⟨p.words.set d.val (mix (p.words.get d) h) (place_lt d), hash⟩

/-- The pool of a seed: the first four words fill it, then each place is mixed into the others,
then the remaining words are mixed into all places. -/
def pool (seed : Nat) : Pool :=
  let ws := seedWords seed
  let start : Pool := ⟨Vector.replicate 4 0, 0x43b0d7e5⟩
  let places := List.finRange 4
  let filled := places.foldl (fun p i => p.fill i (ws.getD i 0)) start
  let crossed := places.foldl
    (fun p s => (places.filter (· != s)).foldl (fun p d => p.stir d (p.words.get s)) p) filled
  (ws.drop 4).foldl (fun p w => places.foldl (fun p d => p.stir d w) p) crossed

/-- Words drawn from a pool, in turn from its four places. -/
def draw (p : Pool) : Nat → Nat → UInt32 → List UInt32
  | 0, _, _ => []
  | k + 1, i, hash =>
    let v := p.words.toList.getD (i % 4) 0 ^^^ hash
    let hash := hash * 0x58f38ded
    let v := v * hash
    (v ^^^ (v >>> 16)) :: draw p k (i + 1) hash

/-- A number from its 32-bit words, least significant first. -/
def join (ws : List UInt32) : Nat := ws.foldr (fun w n => w.toNat + 0x100000000 * n) 0

/-! ## Running -/

def multiplier : BitVec 128 := 0x2360ed051fc65da44385df649fccf645

/-- One step of the state. -/
def advance (state increment : BitVec 128) : BitVec 128 := state * multiplier + increment

/-- The generator of a seed. -/
def ofSeed (seed : Nat) : Pcg :=
  let ws := draw (pool seed) 8 0 0x8b51f9dd
  let q (k : Nat) : Nat := join ((ws.drop (2 * k)).take 2)
  let increment := BitVec.ofNat 128 (2 * (q 2 <<< 64 + q 3) + 1)
  ⟨advance (increment + BitVec.ofNat 128 (q 0 <<< 64 + q 1)) increment, increment, none⟩

/-- Rotates to the right. -/
def rotate (x : UInt64) (r : UInt64) : UInt64 := (x >>> r) ||| (x <<< (64 - r))

/-- The output of a state: both halves together, rotated by the top six bits. -/
def output (state : BitVec 128) : UInt64 :=
  let n := state.toNat
  rotate (UInt64.ofNat (n >>> 64) ^^^ UInt64.ofNat n) (UInt64.ofNat (n >>> 122))

/-- The next byte and the generator after it. -/
def next (g : Pcg) : UInt8 × Pcg :=
  match g.spare with
  | some b => (b, { g with spare := none })
  | none =>
    let state := advance g.state g.increment
    let x := output state
    ((x >>> 24).toUInt8, { g with state, spare := some (x >>> 56).toUInt8 })

end Pcg

end ChipEight
