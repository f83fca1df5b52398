import ChipEight.Proofs.Transfer

/-!
# Decimal digits

The instruction FX33 writes the three decimal digits of VX to the cells from `I` on, and FZ65 reads them
into V0, V1 and V2, as a program does that shows a number. The digits make up the number again, also when X
is one of the registers that are loaded over and when the cells go around the end of memory. Behind the
three cells nothing has changed, so the registers behind V2 get what the memory held before.
-/

namespace ChipEight.Machine

/-! ## Digits of a byte -/

/-- The decimal digits of a byte, the one of the hundreds first. -/
def decimalDigits (b : UInt8) : List UInt8 := [b / 100, b / 10 % 10, b % 10]

theorem toNat_hundreds (b : UInt8) : (b / 100).toNat = b.toNat / 100 := UInt8.toNat_div b 100

theorem toNat_tens (b : UInt8) : (b / 10 % 10).toNat = b.toNat / 10 % 10 := by
  rw [UInt8.toNat_mod, UInt8.toNat_div]
  rfl

theorem toNat_ones (b : UInt8) : (b % 10).toNat = b.toNat % 10 := UInt8.toNat_mod b 10

/-! ## The instruction -/

variable (m : Machine) (x : Register)

theorem execute_decimal :
    m.execute (.ofDigits 0xF x 3 3) = .ok (2, m.storeDecimal (m.reg x)) := by
  have hop : ∀ x, decode (.ofDigits 0xF x 3 3) = .decimal := by decide
  rw [m.execute_of_none (hop x) rfl]
  simp only [advance, effect, Word.x_ofDigits]
  rfl

/-- The cells behind `I` hold the digits. -/
theorem cells_storeDecimal (b : UInt8) {k c : Nat} (hk : k < 3) (hc : c < 4096)
    (hplace : c = (m.i.toNat + k) % 4096) :
    (m.storeDecimal b).memory.cells[c] = (decimalDigits b)[k] := by
  subst hplace
  exact m.memory.getElem_writeAll_mod m.i (decimalDigits b) hk (by decide : 3 ≤ 4096)

/-- A cell that holds no digit keeps what it holds. -/
theorem cells_storeDecimal_of_ne (b : UInt8) {c : Nat} (hc : c < 4096)
    (hne : ∀ k < 3, c ≠ (m.i.toNat + k) % 4096) :
    (m.storeDecimal b).memory.cells[c] = m.memory.cells[c] :=
  m.memory.getElem_writeAll_of_ne m.i (decimalDigits b) ⟨c, hc⟩ hne

/-! ## Loading the digits -/

section

variable (b : UInt8) (z : Register)

theorem reg_load_digit {r : Register} (hr : r ≤ z) (hdigit : r.val < 3) :
    ((m.storeDecimal b).loadRegisters z).reg r = (decimalDigits b)[r.val] := by
  rw [reg_loadRegisters, if_pos hr]
  exact cells_storeDecimal m b hdigit (Nat.mod_lt _ (by decide)) rfl

/-- The cells of sixteen registers are all different, so those behind the digits are as they were. -/
theorem reg_load_behind {r : Register} (hr : r ≤ z) (hbehind : 3 ≤ r.val) {c : Nat} (hc : c < 4096)
    (hplace : c = (m.i.toNat + r.val) % 4096) :
    ((m.storeDecimal b).loadRegisters z).reg r = m.memory.cells[c] := by
  have hlt := r.val_lt
  have hne : ∀ k < 3, c ≠ (m.i.toNat + k) % 4096 := by
    intro k hk
    omega
  rw [reg_loadRegisters, if_pos hr, ← cells_storeDecimal_of_ne m b hc hne]
  subst hplace
  rfl

end

/-- Writing the digits of VX and then loading V0 to VZ, with Z at least 2, leaves three digits in V0, V1 and
V2 that make up what was in VX. V3 to VZ get what the memory held in their cells before, the registers
behind VZ keep what they held, and no cell has changed but those of the three digits. -/
theorem load_of_decimal (m : Machine) (x z : Register) (hz : 2 ≤ z.val) :
    ∃ written loaded, m.execute (.ofDigits 0xF x 3 3) = .ok (2, written) ∧
      written.execute (.ofDigits 0xF z 6 5) = .ok (2, loaded) ∧
      (loaded.reg 0).toNat ≤ 9 ∧ (loaded.reg 1).toNat ≤ 9 ∧ (loaded.reg 2).toNat ≤ 9 ∧
      100 * (loaded.reg 0).toNat + 10 * (loaded.reg 1).toNat + (loaded.reg 2).toNat =
        (m.reg x).toNat ∧
      (∀ r, 3 ≤ r.val → r ≤ z → loaded.reg r = m.memory.cells[(m.i.toNat + r.val) % 4096]) ∧
      (∀ r, z < r → loaded.reg r = m.reg r) ∧
      ∀ c (hc : c < 4096), (∀ k < 3, c ≠ (m.i.toNat + k) % 4096) →
        loaded.memory.cells[c] = m.memory.cells[c] := by
  let b := m.reg x
  let written := m.storeDecimal b
  let loaded := (written.loadRegisters z).moveIndexIf (written.isOn .memory) z
  have hreg (r : Register) : loaded.reg r = (written.loadRegisters z).reg r := by
    rw [reg, reg, v_moveIndexIf]
  have hdigit (r : Register) (hr : r.val < 3) : loaded.reg r = (decimalDigits b)[r.val] := by
    rw [hreg]
    exact reg_load_digit m b z (Nat.le_trans (Nat.le_of_lt_succ hr) hz) hr
  have hhundreds : (loaded.reg 0).toNat = b.toNat / 100 := by
    rw [hdigit 0 (by decide)]
    exact toNat_hundreds b
  have htens : (loaded.reg 1).toNat = b.toNat / 10 % 10 := by
    rw [hdigit 1 (by decide)]
    exact toNat_tens b
  have hones : (loaded.reg 2).toNat = b.toNat % 10 := by
    rw [hdigit 2 (by decide)]
    exact toNat_ones b
  have hb : b.toNat < 256 := b.toNat_lt
  refine ⟨written, loaded, execute_decimal m x, execute_load written z, ?_, ?_, ?_, ?_, ?_, ?_, ?_⟩
  · omega
  · omega
  · omega
  · show 100 * (loaded.reg 0).toNat + 10 * (loaded.reg 1).toNat + (loaded.reg 2).toNat = b.toNat
    omega
  · intro r hbehind hr
    rw [hreg]
    exact reg_load_behind m b z hr hbehind (Nat.mod_lt _ (by decide)) rfl
  · intro r hr
    rw [hreg]
    exact (reg_loadRegisters written z r).trans (if_neg (Fin.not_le.mpr hr))
  · intro c hc hne
    have hmemory : loaded.memory = written.memory := memory_moveIndexIf _ z _
    simp only [hmemory]
    exact cells_storeDecimal_of_ne m b hc hne

/-- The digits of 207 in V1, written around the end of memory. Loading puts one of them into V1 itself, and
into V3 the byte behind them. -/
theorem load_of_decimal_wrapped :
    let m : Machine :=
      { new .standard (.tape (fun _ => 0) 0) with
        memory := Memory.zero.writeAll 1 [0xAB], i := 0xFFFE
        v := Vector.ofFn fun r => if r = 1 then 207 else 0x55 }
    ∃ written loaded, m.execute (.ofDigits 0xF 1 3 3) = .ok (2, written) ∧
      written.execute (.ofDigits 0xF 3 6 5) = .ok (2, loaded) ∧
      100 * (loaded.reg 0).toNat + 10 * (loaded.reg 1).toNat + (loaded.reg 2).toNat = 207 ∧
      loaded.reg 3 = 0xAB ∧ loaded.reg 4 = 0x55 ∧ loaded.memory.cells[2] = m.memory.cells[2] := by
  intro m
  obtain ⟨written, loaded, hwrite, hload, -, -, -, hsum, hbehind, hkept, hcells⟩ :=
    load_of_decimal m 1 3 (by decide)
  refine ⟨written, loaded, hwrite, hload, hsum, ?_, ?_, hcells 2 (by decide) (by decide)⟩
  · rw [hbehind 3 (by decide) (Fin.le_refl 3)]
    decide +kernel
  · exact hkept 4 (by decide)

end ChipEight.Machine
