import ChipEight.Proofs.Bare.Agreement

/-!
# Arithmetic of the registers

The nine instructions 8XYn, with numbers in place of bytes. `arithmetic?` is their table: what an
instruction writes to VX, and what it writes to VF after that, from the numbers that were in VX and VY
before it. `Machine.wrote` is the machine after such an instruction. The flag is written last, so it is
what remains in VF when X is F, and nothing but VX and VF changes (`Machine.arithmetic_exact`).
-/

namespace ChipEight

/-! ## The table -/

/-- What an instruction 8XYn writes: the result for VX, and the flag for VF if it writes one. -/
structure Written where
  result : Nat
  flag? : Option Nat
  deriving DecidableEq, Repr

/-- What the instruction 8XYn writes when VX holds `a`, VY holds `b` and the register that a shift reads
holds `s`. If `resets`, then the logical instructions clear VF. -/
def arithmetic? (n : Nibble) (a b s : Nat) (resets : Bool) : Option Written :=
  let cleared := if resets then some 0 else none
  match n with
  | 0x0 => some ⟨b, none⟩
  | 0x1 => some ⟨a ||| b, cleared⟩
  | 0x2 => some ⟨a &&& b, cleared⟩
  | 0x3 => some ⟨a ^^^ b, cleared⟩
  | 0x4 => some ⟨(a + b) % 256, some (if 255 < a + b then 1 else 0)⟩
  | 0x5 => some ⟨(((a : Int) - b) % 256).toNat, some (if b ≤ a then 1 else 0)⟩
  | 0x6 => some ⟨s / 2, some (s % 2)⟩
  | 0x7 => some ⟨(((b : Int) - a) % 256).toNat, some (if a ≤ b then 1 else 0)⟩
  | 0xE => some ⟨2 * s % 256, some (s / 128)⟩
  | _ => none

/-! ## Bytes as numbers -/

theorem toNat_sub_eq (a b : UInt8) : (a - b).toNat = (((a.toNat : Int) - b.toNat) % 256).toNat := by
  have hcut := toNat_byteOfInt ((a.toNat : Int) - b.toNat)
  rw [byteOfInt_sub] at hcut
  omega

theorem toNat_half (s : UInt8) : (s >>> 1).toNat = s.toNat / 2 := by
  have hcut := toNat_byteOfInt ((s.toNat : Int) / 2)
  have hs := s.toNat_lt
  rw [byteOfInt_half] at hcut
  omega

theorem toNat_double (s : UInt8) : (s <<< 1).toNat = 2 * s.toNat % 256 := by
  have hcut := toNat_byteOfInt ((s.toNat : Int) * 2)
  rw [byteOfInt_double] at hcut
  omega

theorem toNat_and_one (s : UInt8) : (s &&& 1).toNat = s.toNat % 2 := by
  have hbit := toNat_lastBit s
  omega

theorem toNat_shiftRight_seven (s : UInt8) : (s >>> 7).toNat = s.toNat / 128 := by
  have hbit := toNat_firstBit s
  omega

namespace Machine

theorem toNat_flagOf (c : Prop) [Decidable c] : (flagOf c).toNat = if c then 1 else 0 := by
  by_cases h : c <;> simp [flagOf, h]

theorem toNat_flagOf_le (a b : UInt8) :
    (flagOf (a ≤ b)).toNat = if a.toNat ≤ b.toNat then 1 else 0 := by
  rw [toNat_flagOf]
  simp only [UInt8.le_iff_toNat_le]

/-! ## Two writes -/

/-- The machine with a result in a register and then, if there is one, a flag in VF. -/
def wrote (m : Machine) (x : Register) (result : UInt8) (flag? : Option UInt8) : Machine :=
  match flag? with
  | none => m.setReg x result
  | some f => (m.setReg x result).setFlag f

section

variable (m : Machine) (x : Register) (result : UInt8)

/-- The flag is what remains in VF. -/
theorem reg_flag_wrote (f : UInt8) : (m.wrote x result (some f)).reg flag = f :=
  reg_setReg_self _ flag f

theorem reg_wrote {flag? : Option UInt8} (hx : flag?.isSome → x ≠ flag) :
    (m.wrote x result flag?).reg x = result := by
  cases flag? with
  | none => exact reg_setReg_self m x result
  | some f =>
    show ((m.setReg x result).setReg flag f).reg x = result
    rw [reg_setReg_of_ne _ f (hx rfl).symm, reg_setReg_self]

theorem reg_wrote_of_ne {flag? : Option UInt8} {r : Register} (hr : r ≠ x)
    (hflag : flag?.isSome → r ≠ flag) : (m.wrote x result flag?).reg r = m.reg r := by
  cases flag? with
  | none => exact reg_setReg_of_ne m result hr.symm
  | some f =>
    show ((m.setReg x result).setReg flag f).reg r = m.reg r
    rw [reg_setReg_of_ne _ f (hflag rfl).symm, reg_setReg_of_ne m result hr.symm]

theorem wrote_eq (flag? : Option UInt8) :
    m.wrote x result flag? = { m with v := (m.wrote x result flag?).v } := by
  cases flag? <;> rfl

theorem clearFlagIf_setReg (c : Bool) :
    (m.setReg x result).clearFlagIf c = m.wrote x result (if c then some 0 else none) := by
  cases c <;> rfl

end

/-! ## The instructions -/

section

variable (m : Machine) {w : Word} (hw : w.group = 8)
include hw

/-- The nine instructions cannot fail and go on with the next instruction. -/
theorem execute_of_group_eight (op : Op) (hop : decodeArithmetic w.n = op) (hne : op ≠ .unknown) :
    m.execute w = .ok (2, m.effect op w) := by
  have hdecode : decode w = op := by
    rw [decode, hw]
    exact hop
  have hplain : m.faultOf? op w = none ∧ m.advance op w = 2 := by
    unfold decodeArithmetic at hop
    split at hop
    case h_10 => exact absurd hop.symm hne
    all_goals
      subst hop
      exact ⟨rfl, rfl⟩
  rw [m.execute_of_none hdecode hplain.1, hplain.2]

/-- An instruction of the table writes the bytes of its numbers. -/
theorem exists_wrote {r : Written}
    (h : arithmetic? w.n (m.reg w.x).toNat (m.reg w.y).toNat (m.shiftSource w).toNat
      (m.isOn .vfReset) = some r) :
    ∃ result flag?, m.execute w = .ok (2, m.wrote w.x result flag?) ∧
      result.toNat = r.result ∧ flag?.map UInt8.toNat = r.flag? := by
  have hexecute (op : Op) {n : Nibble} {result : UInt8} {flag? : Option UInt8} (hn : w.n = n)
      (hop : decodeArithmetic n = op) (hne : op ≠ .unknown)
      (heffect : m.effect op w = m.wrote w.x result flag?) :
      m.execute w = .ok (2, m.wrote w.x result flag?) := by
    rw [execute_of_group_eight m hw op (hn ▸ hop) hne, heffect]
  unfold arithmetic? at h
  extract_lets cleared at h
  have hcleared : (if m.isOn .vfReset then some (0 : UInt8) else none).map UInt8.toNat =
      cleared := by
    unfold cleared
    split <;> rfl
  -- One case for each line of the table.
  split at h
  case h_1 hn =>
    obtain rfl := Option.some.inj h
    exact ⟨_, none, hexecute .move hn rfl nofun rfl, rfl, rfl⟩
  case h_2 hn =>
    obtain rfl := Option.some.inj h
    exact ⟨_, _, hexecute .or hn rfl nofun (clearFlagIf_setReg m _ _ _),
      UInt8.toNat_or _ _, hcleared⟩
  case h_3 hn =>
    obtain rfl := Option.some.inj h
    exact ⟨_, _, hexecute .and hn rfl nofun (clearFlagIf_setReg m _ _ _),
      UInt8.toNat_and _ _, hcleared⟩
  case h_4 hn =>
    obtain rfl := Option.some.inj h
    exact ⟨_, _, hexecute .xor hn rfl nofun (clearFlagIf_setReg m _ _ _),
      UInt8.toNat_xor _ _, hcleared⟩
  case h_5 hn =>
    obtain rfl := Option.some.inj h
    exact ⟨_, some _, hexecute .add hn rfl nofun rfl, UInt8.toNat_add _ _,
      congrArg some (toNat_flagOf _)⟩
  case h_6 hn =>
    obtain rfl := Option.some.inj h
    exact ⟨_, some _, hexecute .sub hn rfl nofun rfl, toNat_sub_eq _ _,
      congrArg some (toNat_flagOf_le _ _)⟩
  case h_7 hn =>
    obtain rfl := Option.some.inj h
    exact ⟨_, some _, hexecute .shiftRight hn rfl nofun rfl, toNat_half _,
      congrArg some (toNat_and_one _)⟩
  case h_8 hn =>
    obtain rfl := Option.some.inj h
    exact ⟨_, some _, hexecute .subFrom hn rfl nofun rfl, toNat_sub_eq _ _,
      congrArg some (toNat_flagOf_le _ _)⟩
  case h_9 hn =>
    obtain rfl := Option.some.inj h
    exact ⟨_, some _, hexecute .shiftLeft hn rfl nofun rfl, toNat_double _,
      congrArg some (toNat_shiftRight_seven _)⟩
  case h_10 => cases h

end

/-- An instruction of the table writes to VX what the table says of the numbers that were in the registers
before it, and its flag, if it has one, to VF. The flag is written last and so remains when X is F. All
other registers keep what they held, and so does the rest of the machine. -/
theorem arithmetic_exact (m : Machine) (x y n : Nibble) (r : Written) :
    let a := (m.reg x).toNat
    let b := (m.reg y).toNat
    let s := if m.isOn .shifting then a else b
    arithmetic? n a b s (m.isOn .vfReset) = some r →
    ∃ m', m.execute (.ofDigits 8 x y n) = .ok (2, m') ∧
      (∀ f, r.flag? = some f → (m'.reg flag).toNat = f) ∧
      ((r.flag?.isSome → x ≠ flag) → (m'.reg x).toNat = r.result) ∧
      (∀ k, k ≠ x → (r.flag?.isSome → k ≠ flag) → m'.reg k = m.reg k) ∧
      m' = { m with v := m'.v } := by
  intro a b s h
  let w := Word.ofDigits 8 x y n
  have hs : (m.shiftSource w).toNat = s := by
    rw [shiftSource, Word.x_ofDigits, Word.y_ofDigits]
    exact apply_ite UInt8.toNat _ _ _
  have hw : arithmetic? w.n (m.reg w.x).toNat (m.reg w.y).toNat (m.shiftSource w).toNat
      (m.isOn .vfReset) = some r := by
    rw [hs, Word.n_ofDigits, Word.x_ofDigits, Word.y_ofDigits]
    exact h
  obtain ⟨result, flag?, hexecute, hresult, hflag⟩ :=
    exists_wrote m (Word.group_ofDigits 8 x y n) hw
  rw [Word.x_ofDigits] at hexecute
  have hsome : r.flag?.isSome = flag?.isSome := by rw [← hflag, Option.isSome_map]
  refine ⟨_, hexecute, ?_, ?_, ?_, wrote_eq m x result flag?⟩
  · intro f hf
    obtain ⟨g, rfl, hg⟩ := Option.map_eq_some_iff.mp (hflag.trans hf)
    rw [reg_flag_wrote, hg]
  · intro hx
    rw [reg_wrote m x result (hsome ▸ hx), hresult]
  · intro k hk hkflag
    exact reg_wrote_of_ne m x result hk (hsome ▸ hkflag)

/-- A difference with the old VF as its operand: one less two is 255, with a borrow. -/
theorem arithmetic_exact_borrow :
    let m : Machine :=
      { new .standard (.tape (fun _ => 0) 0) with
        v := Vector.ofFn fun r => if r = flag then 2 else 1 }
    ∃ m', m.execute (.ofDigits 8 3 0xF 5) = .ok (2, m') ∧
      (m'.reg flag).toNat = 0 ∧ (m'.reg 3).toNat = 255 ∧ m'.reg 4 = m.reg 4 := by
  intro m
  obtain ⟨m', hexecute, hflag, hresult, hothers, -⟩ :=
    arithmetic_exact m 3 0xF 5 ⟨255, some 0⟩ (by decide +kernel)
  exact ⟨m', hexecute, hflag 0 rfl, hresult fun _ => by decide,
    hothers 4 (by decide) fun _ => by decide⟩

end Machine

end ChipEight
