import ChipEight.Machine.Operation

/-!
# What an instruction leaves alone

The machine is made of parts: a memory cell, a register, a stack slot, the display and so on.
`Machine.mayWrite` is the table of the parts that an instruction may write. `same_effect` says that
`Machine.effect` leaves all other parts alone: it is proved once, one instruction after the other,
from what each elementary write leaves alone. What a later argument needs to know about one part it
takes from there, as do the theorems about single parts at the end.
-/

namespace ChipEight

/-- A cell that none of the addresses selects keeps what it holds. -/
theorem Memory.getElem_writeAll_of_ne (m : Memory) (a : Word) (bs : List UInt8) (c : Fin 4096)
    (h : ∀ k < bs.length, c.val ≠ (a.toNat + k) % 4096) :
    (m.writeAll a bs).cells[c] = m.cells[c] := by
  induction bs generalizing m a with
  | nil => rfl
  | cons b bs ih =>
    have hfirst : (cell a).val ≠ c.val := (h 0 (Nat.succ_pos _)).symm
    have hrest : ∀ k < bs.length, c.val ≠ ((a + 1).toNat + k) % 4096 := by
      intro k hk
      have hnext := h (k + 1) (Nat.succ_lt_succ hk)
      rw [UInt16.toNat_add, UInt16.toNat_one]
      omega
    rw [writeAll, ih (m.write a b) (a + 1) hrest]
    show (m.cells.set (cell a) b)[c.val] = m.cells[c.val]
    exact Vector.getElem_set_ne (cell a).isLt c.isLt hfirst

namespace Machine

/-! ## Parts -/

/-- A part of the machine. -/
inductive Part where
  | cell (a : Fin 4096)
  | register (r : Register)
  /-- The index register. -/
  | index
  /-- The address of the next instruction. -/
  | counter
  /-- A slot of the stack. -/
  | slot (k : Fin 16)
  /-- The number of slots in use. -/
  | depth
  | delay
  | sound
  | display
  | keypad
  | blocked
  | random
  | settings
  /-- The count of instructions. -/
  | cycles
  /-- The count of timer steps. -/
  | ticks

/-- Two machines with the same in a part. -/
def Same (p : Part) (m m' : Machine) : Prop :=
  match p with
  | .cell a => m.memory.cells[a] = m'.memory.cells[a]
  | .register r => m.reg r = m'.reg r
  | .index => m.i = m'.i
  | .counter => m.pc = m'.pc
  | .slot k => m.stack.slots[k] = m'.stack.slots[k]
  | .depth => m.stack.depth = m'.stack.depth
  | .delay => m.delay = m'.delay
  | .sound => m.sound = m'.sound
  | .display => m.display = m'.display
  | .keypad => m.keypad = m'.keypad
  | .blocked => m.blocked = m'.blocked
  | .random => m.random = m'.random
  | .settings => m.settings = m'.settings
  | .cycles => m.cycles = m'.cycles
  | .ticks => m.ticks = m'.ticks

theorem Same.refl (p : Part) (m : Machine) : Same p m m := by
  cases p <;> rfl

theorem Same.symm {p : Part} {m m' : Machine} (h : Same p m m') : Same p m' m := by
  cases p <;> exact Eq.symm h

theorem Same.trans {p : Part} {m₁ m₂ m₃ : Machine} (h₁₂ : Same p m₁ m₂) (h₂₃ : Same p m₂ m₃) :
    Same p m₁ m₃ := by
  cases p <;> exact Eq.trans h₁₂ h₂₃

theorem stack_eq_of_same {m m' : Machine} (hslots : ∀ k, Same (.slot k) m m')
    (hdepth : Same .depth m m') : m.stack = m'.stack := by
  have hvector : m.stack.slots = m'.stack.slots := Vector.ext fun k hk => hslots ⟨k, hk⟩
  calc m.stack = ⟨m.stack.slots, m.stack.depth⟩ := rfl
    _ = ⟨m'.stack.slots, m'.stack.depth⟩ := by rw [hvector, hdepth]

/-- There is nothing more to a machine than its parts. -/
theorem eq_of_same {m m' : Machine} (h : ∀ p, Same p m m') : m = m' := by
  have hmemory : m.memory = m'.memory :=
    congrArg Memory.mk (Vector.ext fun a ha => h (.cell ⟨a, ha⟩))
  have hv : m.v = m'.v := Vector.ext fun r hr => h (.register ⟨r, hr⟩)
  have hstack : m.stack = m'.stack := stack_eq_of_same (fun k => h (.slot k)) (h .depth)
  obtain ⟨memory, v, i, pc, stack, delay, sound, display, keypad, blocked, random, settings, cycles,
    ticks⟩ := m
  obtain rfl : memory = m'.memory := hmemory
  obtain rfl : v = m'.v := hv
  obtain rfl : stack = m'.stack := hstack
  obtain rfl : i = m'.i := h .index
  obtain rfl : pc = m'.pc := h .counter
  obtain rfl : delay = m'.delay := h .delay
  obtain rfl : sound = m'.sound := h .sound
  obtain rfl : display = m'.display := h .display
  obtain rfl : keypad = m'.keypad := h .keypad
  obtain rfl : blocked = m'.blocked := h .blocked
  obtain rfl : random = m'.random := h .random
  obtain rfl : settings = m'.settings := h .settings
  obtain rfl : cycles = m'.cycles := h .cycles
  obtain rfl : ticks = m'.ticks := h .ticks
  rfl

end Machine

/-! ## The table of writes -/

/-- Does the instruction name X as the register that receives its result? -/
def Op.namesDestination : Op → Bool
  | loadByte | addByte | move | or | and | xor | add | sub | shiftRight | subFrom | shiftLeft
  | random | readDelay | awaitKey => true
  | _ => false

namespace Machine

/-- Does the instruction write VF as a flag? -/
def writesFlag (m : Machine) : Op → Bool
  | .add | .sub | .shiftRight | .subFrom | .shiftLeft | .draw => true
  | .or | .and | .xor => m.isOn .vfReset
  | .addIndex => m.isOn .indexOverflow
  | _ => false

/-- The parts that an instruction may write. -/
def mayWrite (m : Machine) (op : Op) (w : Word) : Part → Prop
  | .cell a =>
    (op = .decimal ∧ ∃ k ≤ 2, a.val = (m.i.toNat + k) % 4096) ∨
    (op = .store ∧ ∃ k ≤ w.x.val, a.val = (m.i.toNat + k) % 4096)
  | .register r =>
    (op.namesDestination ∧ r = w.x) ∨ (m.writesFlag op ∧ r = flag) ∨ (op = .load ∧ r ≤ w.x)
  | .index =>
    op = .loadIndex ∨ op = .addIndex ∨ op = .glyph ∨ ((op = .store ∨ op = .load) ∧ m.isOn .memory)
  | .counter => op = .jump ∨ op = .call ∨ op = .ret ∨ op = .jumpOffset
  | .slot k => op = .call ∧ k.val = m.stack.depth.val
  | .depth => op = .call ∨ op = .ret
  | .delay => op = .setDelay
  | .sound => op = .setSound
  | .display => op = .clear ∨ op = .draw
  | .blocked => op = .awaitKey
  | .random => op = .random
  | .keypad | .settings | .cycles | .ticks => False

/-! ## Elementary writes -/

section

variable (m : Machine) {p : Part}

theorem same_setReg {r : Register} (b : UInt8) (h : p ≠ .register r) :
    Same p (m.setReg r b) m := by
  cases p with
  | register s => exact reg_setReg_of_ne m b fun hr => h (hr ▸ rfl)
  | _ => rfl

theorem same_setIndex (i : Word) (h : p ≠ .index) : Same p { m with i } m := by
  cases p with
  | index => exact absurd rfl h
  | _ => rfl

theorem same_setCounter (pc : Word) (h : p ≠ .counter) : Same p { m with pc } m := by
  cases p with
  | counter => exact absurd rfl h
  | _ => rfl

theorem same_setDisplay (display : Screen) (h : p ≠ .display) : Same p { m with display } m := by
  cases p with
  | display => exact absurd rfl h
  | _ => rfl

theorem same_setBlocked (blocked : Bool) (h : p ≠ .blocked) : Same p { m with blocked } m := by
  cases p with
  | blocked => exact absurd rfl h
  | _ => rfl

theorem same_setRandom (random : RandomSource) (h : p ≠ .random) : Same p { m with random } m := by
  cases p with
  | random => exact absurd rfl h
  | _ => rfl

/-- Bytes written from `I` on. -/
theorem same_writeAll (bs : List UInt8)
    (h : ∀ a : Fin 4096, (∃ k < bs.length, a.val = (m.i.toNat + k) % 4096) → p ≠ .cell a) :
    Same p { m with memory := m.memory.writeAll m.i bs } m := by
  cases p with
  | cell a => exact m.memory.getElem_writeAll_of_ne m.i bs a fun k hk ha => h a ⟨k, hk, ha⟩ rfl
  | _ => rfl

/-! ### The helpers of instructions -/

theorem same_clearFlagIf (c : Bool) (h : c → p ≠ .register flag) :
    Same p (m.clearFlagIf c) m := by
  unfold clearFlagIf
  split
  case isTrue hc => exact same_setReg m 0 (h hc)
  case isFalse => exact .refl p m

theorem same_moveIndexIf (c : Bool) (x : Register) (h : c → p ≠ .index) :
    Same p (m.moveIndexIf c x) m := by
  unfold moveIndexIf
  split
  case isTrue hc => exact same_setIndex m _ (h hc)
  case isFalse => exact .refl p m

theorem same_enter (target : Word)
    (hslot : ∀ k : Fin 16, k.val = m.stack.depth.val → p ≠ .slot k) (hdepth : p ≠ .depth)
    (hcounter : p ≠ .counter) : Same p (m.enter target) m := by
  unfold enter CallStack.push?
  by_cases hroom : m.stack.depth.val < 16
  · rw [dif_pos hroom]
    cases p with
    | slot k =>
      exact Vector.getElem_set_ne hroom k.isLt fun hk => hslot k hk.symm rfl
    | depth => exact absurd rfl hdepth
    | counter => exact absurd rfl hcounter
    | _ => rfl
  · rw [dif_neg hroom]
    exact .refl p m

theorem same_leave (hdepth : p ≠ .depth) (hcounter : p ≠ .counter) : Same p m.leave m := by
  unfold leave CallStack.pop?
  by_cases hsome : 0 < m.stack.depth.val
  · rw [dif_pos hsome]
    cases p with
    | depth => exact absurd rfl hdepth
    | counter => exact absurd rfl hcounter
    | _ => rfl
  · rw [dif_neg hsome]
    exact .refl p m

theorem same_addToIndex (r : Register) (hindex : p ≠ .index)
    (hflag : m.isOn .indexOverflow → p ≠ .register flag) : Same p (m.addToIndex r) m := by
  unfold addToIndex
  dsimp only
  split
  case isTrue hon => exact (same_setReg _ _ (hflag hon)).trans (same_setIndex m _ hindex)
  case isFalse => exact same_setIndex m _ hindex

theorem same_loadRegisters (x : Register) (h : ∀ r ≤ x, p ≠ .register r) :
    Same p (m.loadRegisters x) m := by
  cases p with
  | register r =>
    have hr : ¬r.val ≤ x.val := fun hle => h r hle rfl
    show (m.v.mapFinIdx _)[r.val] = m.v[r.val]
    rw [Vector.getElem_mapFinIdx, if_neg hr]
  | _ => rfl

theorem same_takeKey (r : Register) (hblocked : p ≠ .blocked) (hr : p ≠ .register r) :
    Same p (m.takeKey r) m := by
  unfold takeKey
  split
  case h_1 => exact (same_setBlocked _ _ hblocked).trans (same_setReg m _ hr)
  case h_2 => exact same_setBlocked m _ hblocked

end

/-! ## Instructions -/

section

variable (m : Machine) {op : Op} (w : Word)

/-- An instruction leaves alone every part that the table does not list for it. -/
theorem same_effect {p : Part} (h : ¬m.mayWrite op w p) : Same p (m.effect op w) m := by
  have hne {q : Part} (hq : m.mayWrite op w q) : p ≠ q := by
    rintro rfl
    exact h hq
  -- VX and VF, for the instructions that name X and for those with a flag.
  have hx (hop : op.namesDestination) : p ≠ .register w.x := hne (.inl ⟨hop, rfl⟩)
  have hflag (hop : m.writesFlag op) : p ≠ .register flag := hne (.inr (.inl ⟨hop, rfl⟩))
  cases op with
  | skipEqByte | skipNeByte | skipEqReg | skipNeReg | skipKey | skipNoKey | unknown =>
    exact .refl p m
  | clear => exact same_setDisplay m _ (hne (.inl rfl))
  | ret => exact same_leave m (hne (.inr rfl)) (hne (.inr (.inr (.inl rfl))))
  | jump => exact same_setCounter m _ (hne (.inl rfl))
  | jumpOffset => exact same_setCounter m _ (hne (.inr (.inr (.inr rfl))))
  | call =>
    exact same_enter m _ (fun k hk => hne ⟨rfl, hk⟩) (hne (.inl rfl)) (hne (.inr (.inl rfl)))
  | loadByte | addByte | move | readDelay => exact same_setReg m _ (hx rfl)
  | or | and | xor => exact (same_clearFlagIf _ _ hflag).trans (same_setReg m _ (hx rfl))
  | add | sub | subFrom | shiftRight | shiftLeft =>
    exact (same_setReg _ _ (hflag rfl)).trans (same_setReg m _ (hx rfl))
  | random => exact (same_setRandom _ _ (hne rfl)).trans (same_setReg m _ (hx rfl))
  | draw => exact (same_setDisplay _ _ (hne (.inr rfl))).trans (same_setReg m _ (hflag rfl))
  | awaitKey => exact same_takeKey m _ (hne rfl) (hx rfl)
  | setDelay =>
    cases p with
    | delay => exact absurd rfl h
    | _ => rfl
  | setSound =>
    cases p with
    | sound => exact absurd rfl h
    | _ => rfl
  | loadIndex => exact same_setIndex m _ (hne (.inl rfl))
  | glyph => exact same_setIndex m _ (hne (.inr (.inr (.inl rfl))))
  | addIndex => exact same_addToIndex m _ (hne (.inr (.inl rfl))) hflag
  | decimal =>
    exact same_writeAll m _ fun a ⟨k, hk, ha⟩ => hne (.inl ⟨rfl, k, Nat.le_of_lt_succ hk, ha⟩)
  | store =>
    have hmove (hon : m.isOn .memory) : p ≠ .index := hne (.inr (.inr (.inr ⟨.inl rfl, hon⟩)))
    refine (same_moveIndexIf _ _ _ hmove).trans (same_writeAll m _ fun a ⟨k, hk, ha⟩ => ?_)
    have hlength : (m.v.toList.take (w.x.val + 1)).length ≤ w.x.val + 1 := List.length_take_le ..
    exact hne (.inr ⟨rfl, k, Nat.le_of_lt_succ (Nat.lt_of_lt_of_le hk hlength), ha⟩)
  | load =>
    have hmove (hon : m.isOn .memory) : p ≠ .index := hne (.inr (.inr (.inr ⟨.inr rfl, hon⟩)))
    refine (same_moveIndexIf _ _ _ hmove).trans (same_loadRegisters m _ fun r hr => ?_)
    exact hne (.inr (.inr ⟨rfl, hr⟩))

/-! ### Single parts -/

/-- Only calls and returns change the stack. -/
theorem stack_effect (hcall : op ≠ .call) (hret : op ≠ .ret) :
    (m.effect op w).stack = m.stack :=
  stack_eq_of_same (fun _ => same_effect m w fun h => hcall h.1)
    (same_effect m w fun h => h.elim hcall hret)

/-- No instruction counts itself. -/
theorem cycles_effect : (m.effect op w).cycles = m.cycles :=
  same_effect m w (p := .cycles) id

/-- No instruction counts timer steps. -/
theorem ticks_effect : (m.effect op w).ticks = m.ticks :=
  same_effect m w (p := .ticks) id

/-- No instruction changes the settings. -/
theorem settings_effect : (m.effect op w).settings = m.settings :=
  same_effect m w (p := .settings) id

/-- Only the random instruction draws from the random source. -/
theorem random_effect (h : op ≠ .random) : (m.effect op w).random = m.random :=
  same_effect m w (p := .random) h

end

/-! ### Cycles -/

section

variable (m : Machine)

theorem cycles_cycle : m.cycle.cycles = m.cycles + 1 :=
  congrArg (· + 1) (cycles_effect m m.fetch)

theorem ticks_cycle : m.cycle.ticks = m.ticks := ticks_effect m m.fetch

theorem settings_cycle : m.cycle.settings = m.settings := settings_effect m m.fetch

end

end Machine

end ChipEight
