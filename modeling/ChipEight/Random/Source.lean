import ChipEight.Random.Pcg

/-!
# Random bytes

Where random bytes come from: a given stream, or a seeded generator. A source counts the bytes it
has given. `RandomSource.upcoming k` is the byte that comes after `k` others.
-/

namespace ChipEight

/-- A source of bytes. -/
inductive RandomSource where
  /-- The stream `byteAt 0, byteAt 1, …`, of which `drawn` bytes have been given. -/
  | tape (byteAt : Nat → UInt8) (drawn : Nat)
  /-- A seeded generator that has given `drawn` bytes. -/
  | seeded (generator : Pcg) (drawn : Nat)

namespace RandomSource

/-- The bytes of a list over and over; zeros if it is empty. -/
def repeating (bytes : Array UInt8) : RandomSource :=
  tape (fun k => bytes.getD (k % bytes.size) 0) 0

/-- The generator of a seed. -/
def ofSeed (seed : Nat) : RandomSource := seeded (Pcg.ofSeed seed) 0

instance : Inhabited RandomSource := ⟨repeating #[]⟩

/-- Number of bytes given so far. -/
def drawn : RandomSource → Nat
  | tape _ n => n
  | seeded _ n => n

/-- The next byte and the source after it. -/
def next : RandomSource → UInt8 × RandomSource
  | tape byteAt n => (byteAt n, tape byteAt (n + 1))
  | seeded g n =>
    let (b, g) := g.next
    (b, seeded g (n + 1))

/-- The source after `k` more bytes. -/
def after (s : RandomSource) : Nat → RandomSource
  | 0 => s
  | k + 1 => (s.after k).next.2

/-- The byte that comes after `k` others. -/
def upcoming (s : RandomSource) (k : Nat) : UInt8 := (s.after k).next.1

@[simp]
theorem drawn_next (s : RandomSource) : s.next.2.drawn = s.drawn + 1 := by
  cases s <;> rfl

@[simp]
theorem drawn_after (s : RandomSource) (k : Nat) : (s.after k).drawn = s.drawn + k := by
  induction k with
  | zero => rfl
  | succ k ih => simp [after, ih, Nat.add_assoc]

/-- Giving a byte and then `k` more is giving `k + 1`. -/
theorem after_next (s : RandomSource) (k : Nat) : s.next.2.after k = s.after (k + 1) := by
  induction k with
  | zero => rfl
  | succ k ih => rw [after, ih, ← after]

end RandomSource

end ChipEight
