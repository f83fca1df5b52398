import ChipEight.Proofs.Footprint

/-!
# Registers to memory and back

The instructions FX55 and FX65 copy V0 to VX to the cells from `I` on, and back. There are at most sixteen
of these cells, so that they are all different, also where they go around the end of memory: what is
stored in one of them is not overwritten by a later register (`Memory.getElem_writeAll_mod`). Loading from
where they were stored therefore gives the registers back, whatever happens to the rest of the machine in
between (`Machine.load_of_store`).
-/

namespace ChipEight

namespace Memory

variable (m : Memory) (a : Word)

/-- As long as there is room for them, bytes that are written one after the other stay in their places,
also around the end of memory. -/
theorem getElem_writeAll_mod (bs : List UInt8) {k : Nat} (hk : k < bs.length)
    (hroom : bs.length ≤ 4096) :
    (m.writeAll a bs).cells[(a.toNat + k) % 4096] = bs[k] := by
  induction bs generalizing m a k with
  | nil => cases hk
  | cons b bs ih =>
    rw [List.length_cons] at hk hroom
    have hnext : (a + 1).toNat % 4096 = (a.toNat + 1) % 4096 := by
      rw [UInt16.toNat_add, UInt16.toNat_one]
      omega
    cases k with
    | zero =>
      -- The bytes behind the first one do not come round to its cell.
      have hlater : ∀ j < bs.length, (cell a).val ≠ ((a + 1).toNat + j) % 4096 := by
        intro j hj
        show a.toNat % 4096 ≠ _
        omega
      have hkept := (m.write a b).getElem_writeAll_of_ne (a + 1) bs (cell a) hlater
      have hwritten : (m.write a b).cells[cell a] = b := m.read_write_self a b
      exact hkept.trans hwritten
    | succ k =>
      have hplace : (a.toNat + (k + 1)) % 4096 = ((a + 1).toNat + k) % 4096 := by omega
      simp only [hplace]
      exact ih (m.write a b) (a + 1) (Nat.lt_of_succ_lt_succ hk) (Nat.le_of_succ_le hroom)

end Memory

namespace Machine

variable (m : Machine) (x : Register)

/-! ## The two instructions -/

theorem execute_store :
    m.execute (.ofDigits 0xF x 5 5) =
      .ok (2, (m.storeRegisters x).moveIndexIf (m.isOn .memory) x) := by
  have hop : ∀ x, decode (.ofDigits 0xF x 5 5) = .store := by decide
  rw [m.execute_of_none (hop x) rfl]
  simp only [advance, effect, Word.x_ofDigits]
  rfl

theorem execute_load :
    m.execute (.ofDigits 0xF x 6 5) =
      .ok (2, (m.loadRegisters x).moveIndexIf (m.isOn .memory) x) := by
  have hop : ∀ x, decode (.ofDigits 0xF x 6 5) = .load := by decide
  rw [m.execute_of_none (hop x) rfl]
  simp only [advance, effect, Word.x_ofDigits]
  rfl

/-- Where `I` is after either of them. -/
theorem toNat_moveIndexIf (c : Bool) :
    (m.moveIndexIf c x).i.toNat = if c then (m.i.toNat + x.val + 1) % 0x10000 else m.i.toNat := by
  unfold moveIndexIf
  split
  · show (m.i + UInt16.ofNat x.val + 1).toNat = _
    rw [UInt16.toNat_add, UInt16.toNat_add, UInt16.toNat_ofNat', UInt16.toNat_one]
    omega
  · rfl

theorem memory_moveIndexIf (c : Bool) : (m.moveIndexIf c x).memory = m.memory := by
  unfold moveIndexIf
  split <;> rfl

theorem v_moveIndexIf (c : Bool) : (m.moveIndexIf c x).v = m.v := by
  unfold moveIndexIf
  split <;> rfl

/-! ## Cells and registers -/

/-- The cells behind `I` hold the registers that were stored. -/
theorem cells_storeRegisters {r : Register} (hr : r ≤ x) :
    (m.storeRegisters x).memory.cells[(m.i.toNat + r.val) % 4096] = m.reg r := by
  have hr' : r.val ≤ x.val := hr
  have hx := x.val_lt
  have hlength : (m.v.toList.take (x.val + 1)).length = x.val + 1 := by
    rw [List.length_take, Vector.length_toList]
    omega
  have hwritten := m.memory.getElem_writeAll_mod m.i (m.v.toList.take (x.val + 1))
    (k := r.val) (by omega) (by omega)
  rw [List.getElem_take] at hwritten
  exact hwritten

/-- A cell that none of the addresses selects keeps what it holds. -/
theorem cells_storeRegisters_of_ne {c : Nat} (hc : c < 4096)
    (hne : ∀ k ≤ x.val, c ≠ (m.i.toNat + k) % 4096) :
    (m.storeRegisters x).memory.cells[c] = m.memory.cells[c] := by
  refine m.memory.getElem_writeAll_of_ne m.i _ ⟨c, hc⟩ fun k hk => hne k ?_
  have hlength := List.length_take_le (x.val + 1) m.v.toList
  omega

theorem reg_loadRegisters (r : Register) :
    (m.loadRegisters x).reg r =
      if r ≤ x then m.memory.cells[(m.i.toNat + r.val) % 4096] else m.reg r := by
  show (m.v.mapFinIdx _)[r.val] = _
  rw [Vector.getElem_mapFinIdx, Memory.read_add]
  rfl

/-- V0 to VX come back from the cells in which they were stored, to a machine that has kept these cells and
that loads from where they were stored. -/
theorem reg_loadRegisters_of_stored {m between : Machine} {x r : Register} (hr : r ≤ x)
    (hmemory : between.memory = (m.storeRegisters x).memory) (hi : between.i = m.i) :
    (between.loadRegisters x).reg r = m.reg r := by
  simp only [reg_loadRegisters, if_pos hr, hi, hmemory]
  exact cells_storeRegisters m x hr

/-- Storing V0 to VX leaves all registers alone, and all cells but those from `I` on, around the end of
memory. Loading V0 to VX leaves the memory alone and the registers behind VX. Each of the two moves `I`
past the cells if that switch is on, and leaves it where it was if not. Loading after storing gives V0 to
VX back, whatever has been changed in between, as long as the memory is as it was left and `I` is where it
was at first. -/
theorem load_of_store (m : Machine) (x : Register) :
    let moved := if m.isOn .memory then (m.i.toNat + x.val + 1) % 0x10000 else m.i.toNat
    (∃ stored, m.execute (.ofDigits 0xF x 5 5) = .ok (2, stored) ∧
      stored.v = m.v ∧ stored.i.toNat = moved ∧
      (∀ c (hc : c < 4096), (∀ k ≤ x.val, c ≠ (m.i.toNat + k) % 4096) →
        stored.memory.cells[c] = m.memory.cells[c]) ∧
      ∀ between : Machine, between.memory = stored.memory → between.i = m.i →
        ∃ loaded, between.execute (.ofDigits 0xF x 6 5) = .ok (2, loaded) ∧
          ∀ r ≤ x, loaded.reg r = m.reg r) ∧
    ∃ loaded, m.execute (.ofDigits 0xF x 6 5) = .ok (2, loaded) ∧
      loaded.memory = m.memory ∧ loaded.i.toNat = moved ∧ ∀ r, x < r → loaded.reg r = m.reg r := by
  intro moved
  constructor
  · refine ⟨_, execute_store m x, ?_, toNat_moveIndexIf _ x _, ?_, ?_⟩
    · rw [v_moveIndexIf]
      rfl
    · intro c hc hne
      simp only [memory_moveIndexIf]
      exact cells_storeRegisters_of_ne m x hc hne
    · intro between hmemory hi
      rw [memory_moveIndexIf] at hmemory
      refine ⟨_, execute_load between x, fun r hr => ?_⟩
      rw [reg, v_moveIndexIf]
      exact reg_loadRegisters_of_stored hr hmemory hi
  · refine ⟨_, execute_load m x, memory_moveIndexIf _ x _, toNat_moveIndexIf _ x _, ?_⟩
    intro r hr
    rw [reg, v_moveIndexIf]
    show (m.loadRegisters x).reg r = m.reg r
    rw [reg_loadRegisters, if_neg (Fin.not_le.mpr hr)]

/-- Three registers that are stored around the end of memory, with an `I` that goes around the end of the
words. They come back after all registers and the timers have been overwritten. -/
theorem load_of_store_wrapped :
    let m : Machine :=
      { new { memory := .bool true } (.tape (fun _ => 0) 0) with
        i := 0xFFFE, v := Vector.ofFn fun r => UInt8.ofNat (0x10 + r.val) }
    ∃ stored, m.execute (.ofDigits 0xF 2 5 5) = .ok (2, stored) ∧ stored.i.toNat = 1 ∧
      stored.memory.cells[1] = m.memory.cells[1] ∧
      ∃ loaded, Machine.execute { stored with
          i := m.i, v := Vector.replicate 16 0, delay := 7, sound := 9 } (.ofDigits 0xF 2 6 5) =
          .ok (2, loaded) ∧ loaded.reg 2 = 0x12 := by
  intro m
  obtain ⟨⟨stored, hstore, -, hi, hcells, hload⟩, -⟩ := load_of_store m 2
  obtain ⟨loaded, hloaded, hregs⟩ :=
    hload { stored with i := m.i, v := Vector.replicate 16 0, delay := 7, sound := 9 } rfl rfl
  refine ⟨stored, hstore, hi.trans (by decide), hcells 1 (by decide) (by decide), loaded, hloaded, ?_⟩
  exact hregs 2 (Fin.le_refl 2)

end Machine

end ChipEight
