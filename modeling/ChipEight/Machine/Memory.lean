import ChipEight.Instruction.Word

/-!
# Memory

4096 cells of one byte. An address is a word of which the low twelve bits select the cell, so that
addresses wrap around the end of memory.
-/

namespace ChipEight

/-- The cell that an address selects. -/
def cell (a : Word) : Fin 4096 := ⟨a.toNat % 4096, Nat.mod_lt _ (by decide)⟩

/-- The memory cells. -/
structure Memory where
  cells : Vector UInt8 4096
  deriving DecidableEq

namespace Memory

/-- Reads the cell that an address selects. -/
def read (m : Memory) (a : Word) : UInt8 := m.cells[cell a]

/-- Writes the cell that an address selects. -/
def write (m : Memory) (a : Word) (b : UInt8) : Memory := ⟨m.cells.set (cell a) b⟩

/-- Writes bytes to consecutive cells. -/
def writeAll (m : Memory) (a : Word) : List UInt8 → Memory
  | [] => m
  | b :: bs => (m.write a b).writeAll (a + 1) bs

/-- Reads `n` consecutive cells. -/
def readAll (m : Memory) (a : Word) : Nat → List UInt8
  | 0 => []
  | n + 1 => m.read a :: m.readAll (a + 1) n

/-- The word at an address, high byte first. -/
def word (m : Memory) (a : Word) : Word := Word.ofBytes (m.read a) (m.read (a + 1))

/-- All cells zero. -/
def zero : Memory := ⟨Vector.replicate 4096 0⟩

/-- Memory at power-on: the glyphs of the digits, and zeros. -/
def initial : Memory := zero.writeAll (UInt16.ofNat Layout.fontBase) Layout.font

instance : Inhabited Memory := ⟨initial⟩

/-! ## Laws of the view -/

theorem read_write (m : Memory) (a b : Word) (v : UInt8) :
    (m.write a v).read b = if cell a = cell b then v else m.read b := by
  simp only [read, write, Fin.getElem_fin, Vector.getElem_set, Fin.ext_iff]

@[simp]
theorem read_write_self (m : Memory) (a : Word) (v : UInt8) : (m.write a v).read a = v := by
  simp [read_write]

theorem read_write_of_ne (m : Memory) {a b : Word} (v : UInt8) (h : cell a ≠ cell b) :
    (m.write a v).read b = m.read b := by
  simp [read_write, h]

/-- A read some cells behind an address goes around the end of memory. -/
theorem read_add (m : Memory) (a : Word) (k : Nat) :
    m.read (a + UInt16.ofNat k) = m.cells[(a.toNat + k) % 4096] := by
  have hcell : (cell (a + UInt16.ofNat k)).val = (a.toNat + k) % 4096 := by
    show (a + UInt16.ofNat k).toNat % 4096 = _
    rw [UInt16.toNat_add, UInt16.toNat_ofNat']
    omega
  simp only [read, Fin.getElem_fin, hcell]

theorem getElem?_readAll (m : Memory) (a : Word) (n k : Nat) :
    (m.readAll a n)[k]? = if k < n then some m.cells[(a.toNat + k) % 4096] else none := by
  rw [← read_add]
  induction n generalizing a k with
  | zero => rfl
  | succ n ih =>
    cases k with
    | zero =>
      show some (m.read a) = some (m.read (a + 0))
      rw [UInt16.add_zero]
    | succ k =>
      have hnext : a + 1 + UInt16.ofNat k = a + UInt16.ofNat (k + 1) := by
        rw [UInt16.add_assoc, ← UInt16.ofNat_one, ← UInt16.ofNat_add, Nat.add_comm 1 k]
      rw [readAll, List.getElem?_cons_succ, ih, hnext]
      simp only [Nat.add_lt_add_iff_right]

/-- Bytes that fit below the end of memory replace as many cells in place. -/
theorem toList_writeAll (m : Memory) (a : Word) (bs : List UInt8)
    (h : a.toNat + bs.length ≤ 4096) :
    (m.writeAll a bs).cells.toList =
      m.cells.toList.take a.toNat ++ bs ++ m.cells.toList.drop (a.toNat + bs.length) := by
  induction bs generalizing m a with
  | nil => simp [writeAll]
  | cons b bs ih =>
    rw [List.length_cons] at h
    have hcell : (cell a).val = a.toNat := Nat.mod_eq_of_lt (by omega)
    have hnext : (a + 1).toNat = a.toNat + 1 := by
      rw [UInt16.toNat_add, UInt16.toNat_one]
      omega
    have hlt : a.toNat < m.cells.toList.length := by
      rw [Vector.length_toList]
      omega
    have hwrite : (m.write a b).cells.toList = m.cells.toList.set a.toNat b := by
      simp [write, Vector.toList_set, hcell]
    have htake : (m.cells.toList.set a.toNat b).take (a.toNat + 1) =
        m.cells.toList.take a.toNat ++ [b] := by
      rw [List.take_add_one, List.take_set_of_le (Nat.le_refl _), List.getElem?_set_self hlt]
      rfl
    rw [writeAll, ih (m.write a b) (a + 1) (by omega), hwrite, hnext, htake,
      List.drop_set_of_lt (by omega), List.length_cons, Nat.add_right_comm a.toNat 1,
      Nat.add_assoc a.toNat, List.append_assoc _ [b], List.singleton_append]

/-- A byte that was written is in its place, and behind the last one there is what there was. -/
theorem getElem_writeAll (m : Memory) (a : Word) (bs : List UInt8) {j : Nat}
    (hfits : a.toNat + bs.length ≤ 4096) (hj : a.toNat + j < 4096) :
    (m.writeAll a bs).cells[a.toNat + j] = bs[j]?.getD m.cells[a.toNat + j] := by
  have htake : (m.cells.toList.take a.toNat).length = a.toNat := by
    rw [List.length_take, Vector.length_toList]
    omega
  have hcell : (m.writeAll a bs).cells.toList[a.toNat + j]? =
      some (bs[j]?.getD m.cells[a.toNat + j]) := by
    rw [toList_writeAll m a bs hfits, List.append_assoc, List.getElem?_append_right (by omega),
      htake, Nat.add_sub_cancel_left]
    by_cases hlt : j < bs.length
    · rw [List.getElem?_append_left hlt, List.getElem?_eq_getElem hlt]
      rfl
    · have hindex : a.toNat + bs.length + (j - bs.length) = a.toNat + j := by omega
      rw [List.getElem?_append_right (Nat.not_lt.mp hlt), List.getElem?_drop, hindex,
        List.getElem?_eq_none (Nat.not_lt.mp hlt), Vector.getElem?_toList,
        Vector.getElem?_eq_getElem hj]
      rfl
  rw [Vector.getElem?_toList, Vector.getElem?_eq_getElem hj] at hcell
  exact Option.some.inj hcell

end Memory

end ChipEight
