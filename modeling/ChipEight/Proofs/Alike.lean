import ChipEight.Proofs.Footprint

/-!
# Machines that differ in high address bits

`PC`, `I` and the saved addresses hold sixteen bits, and memory looks at the low twelve of them.
Two machines are alike when they differ in nothing but the other four bits of these words. Every
instruction is carried out on both in the same way and leaves them alike (`Alike.effect`), with one
exception: with the overflow of `I` switched on, an addition looks at all sixteen bits. Alike
machines have that switch off.
-/

namespace ChipEight

/-! ## Addresses -/

/-- Two addresses of the same cell. -/
def Word.Alike (a b : Word) : Prop := a.toNat % 0x1000 = b.toNat % 0x1000

namespace Word.Alike

variable {a b : Word}

theorem refl (a : Word) : Word.Alike a a := rfl

theorem cell_eq (h : Word.Alike a b) : cell a = cell b := Fin.ext h

/-- Addresses wrap around at 65536, which is a multiple of the size of memory. -/
theorem add (h : Word.Alike a b) (d : Word) : Word.Alike (a + d) (b + d) := by
  unfold Word.Alike at h ⊢
  rw [UInt16.toNat_add, UInt16.toNat_add]
  omega

theorem ofNat_add (h : Word.Alike a b) (k : Nat) :
    Word.Alike (UInt16.ofNat (a.toNat + k)) (UInt16.ofNat (b.toNat + k)) := by
  unfold Word.Alike at h ⊢
  rw [UInt16.toNat_ofNat', UInt16.toNat_ofNat']
  omega

variable (h : Word.Alike a b) (m : Memory)
include h

theorem read_eq : m.read a = m.read b :=
  congrArg (fun c : Fin 4096 => m.cells[c]) h.cell_eq

theorem write_eq (v : UInt8) : m.write a v = m.write b v :=
  congrArg (fun c : Fin 4096 => (⟨m.cells.set c v⟩ : Memory)) h.cell_eq

theorem writeAll_eq (bs : List UInt8) : m.writeAll a bs = m.writeAll b bs := by
  induction bs generalizing a b m with
  | nil => rfl
  | cons v bs ih => rw [Memory.writeAll, h.write_eq, ih (h.add 1), Memory.writeAll]

theorem readAll_eq (n : Nat) : m.readAll a n = m.readAll b n := by
  induction n generalizing a b with
  | zero => rfl
  | succ n ih => rw [Memory.readAll, h.read_eq, ih (h.add 1), Memory.readAll]

theorem word_eq : m.word a = m.word b := by
  rw [Memory.word, h.read_eq, (h.add 1).read_eq, Memory.word]

end Word.Alike

/-! ## Call stacks -/

namespace CallStack

/-- Equally deep stacks with addresses of the same cells in their slots. -/
structure Alike (s t : CallStack) : Prop where
  depth : s.depth = t.depth
  slots : ∀ k : Fin 16, Word.Alike (s.slots.get k) (t.slots.get k)

variable {s t : CallStack}

theorem Alike.refl (s : CallStack) : s.Alike s := ⟨rfl, fun _ => rfl⟩

/-- Saving addresses of the same cell succeeds on both stacks or on neither. -/
theorem Alike.push? (h : s.Alike t) {a b : Word} (hab : Word.Alike a b) :
    Option.Rel Alike (s.push? a) (t.push? b) := by
  obtain ⟨slots, depth⟩ := s
  obtain ⟨slots', depth'⟩ := t
  obtain ⟨rfl, hslots⟩ := h
  unfold CallStack.push?
  split
  case isTrue hlt =>
    refine .some ⟨rfl, fun k => ?_⟩
    show Word.Alike ((slots.set depth.val a)[k.val]) ((slots'.set depth.val b)[k.val])
    rw [Vector.getElem_set, Vector.getElem_set]
    split
    · exact hab
    · exact hslots k
  case isFalse => exact .none

/-- Taking an address succeeds on both stacks or on neither. -/
theorem Alike.pop? (h : s.Alike t) :
    Option.Rel (fun p q => Word.Alike p.1 q.1 ∧ p.2.Alike q.2) s.pop? t.pop? := by
  obtain ⟨slots, depth⟩ := s
  obtain ⟨slots', depth'⟩ := t
  obtain ⟨rfl, hslots⟩ := h
  unfold CallStack.pop?
  split
  case isTrue hpos => exact .some ⟨hslots _, rfl, hslots⟩
  case isFalse => exact .none

end CallStack

/-! ## Faults -/

/-- The same fault at addresses of the same cell. -/
inductive Fault.Alike : Fault → Fault → Prop
  | unknownOpcode (w : Word) {a b : Word} (h : Word.Alike a b) :
    Alike (.unknownOpcode w a) (.unknownOpcode w b)
  | stackOverflow {a b : Word} (h : Word.Alike a b) : Alike (.stackOverflow a) (.stackOverflow b)
  | stackUnderflow {a b : Word} (h : Word.Alike a b) : Alike (.stackUnderflow a) (.stackUnderflow b)

/-! ## Machines -/

namespace Machine

/-- Two machines that are the same but for the words in `PC`, `I` and the slots of the stack, which
are addresses of the same cells, and that both have the overflow of `I` switched off. -/
def Alike (m m' : Machine) : Prop :=
  m.isOn .indexOverflow = false ∧
  ∃ pc i stack, m' = { m with pc, i, stack } ∧
    Word.Alike m.pc pc ∧ Word.Alike m.i i ∧ CallStack.Alike m.stack stack

namespace Alike

variable {m m' : Machine}

theorem fetch_eq (h : Alike m m') : m.fetch = m'.fetch := by
  obtain ⟨-, pc, i, stack, rfl, hpc, -, -⟩ := h
  exact hpc.word_eq m.memory

theorem currentOp_eq (h : Alike m m') : m.currentOp = m'.currentOp := by
  rw [currentOp, h.fetch_eq, currentOp]

/-- Alike machines have the same fault or both none. -/
theorem fault? (h : Alike m m') : Option.Rel Fault.Alike m.fault? m'.fault? := by
  unfold Machine.fault?
  rw [← h.currentOp_eq, ← h.fetch_eq]
  obtain ⟨-, pc, i, stack, rfl, hpc, -, hstack⟩ := h
  cases m.currentOp with
  | unknown => exact .some (.unknownOpcode m.fetch hpc)
  | call =>
    simp only [faultOf?, hstack.depth]
    split
    · exact .some (.stackOverflow hpc)
    · exact .none
  | ret =>
    simp only [faultOf?, hstack.depth]
    split
    · exact .some (.stackUnderflow hpc)
    · exact .none
  | _ => exact .none

theorem advance_eq (h : Alike m m') (op : Op) (w : Word) : m.advance op w = m'.advance op w := by
  obtain ⟨-, pc, i, stack, rfl, -⟩ := h
  cases op <;> rfl

theorem reg_eq (h : Alike m m') (r : Register) : m.reg r = m'.reg r := by
  obtain ⟨-, pc, i, stack, rfl, -⟩ := h
  rfl

theorem isOn_eq (h : Alike m m') (q : Switch) : m.isOn q = m'.isOn q := by
  obtain ⟨-, pc, i, stack, rfl, -⟩ := h
  rfl

/-- What neither reads nor writes `PC`, `I` and the stack keeps machines alike. -/
theorem map (h : Alike m m') (f : Machine → Machine)
    (hf : ∀ (m : Machine) pc i stack, f { m with pc, i, stack } = { f m with pc, i, stack })
    (hon : (f m).isOn .indexOverflow = m.isOn .indexOverflow) : Alike (f m) (f m') := by
  obtain ⟨hoff, pc, i, stack, rfl, hpc, hi, hstack⟩ := h
  have hself : f m = { f m with pc := m.pc, i := m.i, stack := m.stack } :=
    hf m m.pc m.i m.stack
  refine ⟨hon.trans hoff, pc, i, stack, hf m pc i stack, ?_, ?_, ?_⟩
  · rw [hself]
    exact hpc
  · rw [hself]
    exact hi
  · rw [hself]
    exact hstack

/-! ### Instructions -/

theorem setReg (h : Alike m m') (r : Register) (b : UInt8) :
    Alike (m.setReg r b) (m'.setReg r b) :=
  h.map (·.setReg r b) (fun _ _ _ _ => rfl) rfl

theorem clearFlagIf (h : Alike m m') (c : Bool) : Alike (m.clearFlagIf c) (m'.clearFlagIf c) := by
  unfold Machine.clearFlagIf
  split
  · exact h.setReg flag 0
  · exact h

theorem enter (h : Alike m m') (target : Word) : Alike (m.enter target) (m'.enter target) := by
  obtain ⟨hoff, pc, i, stack, rfl, hpc, hi, hstack⟩ := h
  have hpush := hstack.push? hpc
  unfold Machine.enter
  dsimp only
  generalize m.stack.push? m.pc = r at hpush ⊢
  generalize stack.push? pc = r' at hpush ⊢
  cases hpush with
  | some hpushed => exact ⟨hoff, target, i, _, rfl, .refl _, hi, hpushed⟩
  | none => exact ⟨hoff, pc, i, stack, rfl, hpc, hi, hstack⟩

theorem leave (h : Alike m m') : Alike m.leave m'.leave := by
  obtain ⟨hoff, pc, i, stack, rfl, hpc, hi, hstack⟩ := h
  have hpop := hstack.pop?
  unfold Machine.leave
  dsimp only
  generalize m.stack.pop? = r at hpop ⊢
  generalize stack.pop? = r' at hpop ⊢
  cases hpop with
  | some hpopped => exact ⟨hoff, _, i, _, rfl, hpopped.1, hi, hpopped.2⟩
  | none => exact ⟨hoff, pc, i, stack, rfl, hpc, hi, hstack⟩

/-- With the overflow of `I` switched off, an addition to `I` sets no flag. -/
theorem addToIndex (h : Alike m m') (r : Register) : Alike (m.addToIndex r) (m'.addToIndex r) := by
  obtain ⟨hoff, pc, i, stack, rfl, hpc, hi, hstack⟩ := h
  have hon : ¬m.isOn .indexOverflow = true := by
    rw [hoff]
    nofun
  have hon' : ¬({ m with pc, i, stack } : Machine).isOn .indexOverflow = true := hon
  unfold Machine.addToIndex
  rw [if_neg hon, if_neg hon']
  exact ⟨hoff, pc, _, stack, rfl, hpc, hi.ofNat_add _, hstack⟩

theorem moveIndexIf (h : Alike m m') (c : Bool) (x : Register) :
    Alike (m.moveIndexIf c x) (m'.moveIndexIf c x) := by
  obtain ⟨hoff, pc, i, stack, rfl, hpc, hi, hstack⟩ := h
  unfold Machine.moveIndexIf
  split
  · exact ⟨hoff, pc, _, stack, rfl, hpc, (hi.add _).add 1, hstack⟩
  · exact ⟨hoff, pc, i, stack, rfl, hpc, hi, hstack⟩

theorem storeDecimal (h : Alike m m') (b : UInt8) :
    Alike (m.storeDecimal b) (m'.storeDecimal b) := by
  obtain ⟨hoff, pc, i, stack, rfl, hpc, hi, hstack⟩ := h
  unfold Machine.storeDecimal
  dsimp only
  rw [hi.writeAll_eq]
  exact ⟨hoff, pc, i, stack, rfl, hpc, hi, hstack⟩

theorem storeRegisters (h : Alike m m') (x : Register) :
    Alike (m.storeRegisters x) (m'.storeRegisters x) := by
  obtain ⟨hoff, pc, i, stack, rfl, hpc, hi, hstack⟩ := h
  unfold Machine.storeRegisters
  dsimp only
  rw [hi.writeAll_eq]
  exact ⟨hoff, pc, i, stack, rfl, hpc, hi, hstack⟩

theorem loadRegisters (h : Alike m m') (x : Register) :
    Alike (m.loadRegisters x) (m'.loadRegisters x) := by
  obtain ⟨hoff, pc, i, stack, rfl, hpc, hi, hstack⟩ := h
  unfold Machine.loadRegisters
  dsimp only
  have hread (k : Nat) :
      m.memory.read (m.i + UInt16.ofNat k) = m.memory.read (i + UInt16.ofNat k) :=
    (hi.add _).read_eq m.memory
  simp only [hread]
  exact ⟨hoff, pc, i, stack, rfl, hpc, hi, hstack⟩

theorem drawSprite (h : Alike m m') (x y : UInt8) (n : Nat) :
    Alike (m.drawSprite x y n) (m'.drawSprite x y n) := by
  obtain ⟨hoff, pc, i, stack, rfl, hpc, hi, hstack⟩ := h
  unfold Machine.drawSprite
  dsimp only
  rw [hi.readAll_eq]
  exact ⟨hoff, pc, i, stack, rfl, hpc, hi, hstack⟩

theorem takeKey (h : Alike m m') (r : Register) : Alike (m.takeKey r) (m'.takeKey r) := by
  refine h.map (·.takeKey r) (fun m pc i stack => ?_) ?_
  · unfold Machine.takeKey
    dsimp only
    split <;> rfl
  · unfold Machine.takeKey
    split <;> rfl

/-- Every instruction leaves alike machines alike. -/
theorem effect (h : Alike m m') (op : Op) (w : Word) : Alike (m.effect op w) (m'.effect op w) := by
  cases op with
  | ret => exact h.leave
  | call => exact h.enter w.nnn
  | addIndex => exact h.addToIndex w.x
  | awaitKey => exact h.takeKey w.x
  | or | and | xor =>
    simp only [Machine.effect, h.reg_eq, h.isOn_eq]
    exact (h.setReg w.x _).clearFlagIf _
  | draw =>
    simp only [Machine.effect, h.reg_eq]
    exact h.drawSprite _ _ _
  | decimal =>
    simp only [Machine.effect, h.reg_eq]
    exact h.storeDecimal _
  | store =>
    simp only [Machine.effect, h.isOn_eq]
    exact (h.storeRegisters w.x).moveIndexIf _ w.x
  | load =>
    simp only [Machine.effect, h.isOn_eq]
    exact (h.loadRegisters w.x).moveIndexIf _ w.x
  | jump | jumpOffset =>
    obtain ⟨hoff, pc, i, stack, rfl, hpc, hi, hstack⟩ := h
    exact ⟨hoff, _, i, stack, rfl, .refl _, hi, hstack⟩
  | loadIndex | glyph =>
    obtain ⟨hoff, pc, i, stack, rfl, hpc, hi, hstack⟩ := h
    exact ⟨hoff, pc, _, stack, rfl, hpc, .refl _, hstack⟩
  | _ => exact h.map (fun m => m.effect _ w) (fun _ _ _ _ => rfl) rfl

/-! ### Cycles -/

theorem finish (h : Alike m m') (distance : Word) :
    Alike (m.finish distance) (m'.finish distance) := by
  obtain ⟨hoff, pc, i, stack, rfl, hpc, hi, hstack⟩ := h
  exact ⟨hoff, _, i, stack, rfl, hpc.add distance, hi, hstack⟩

theorem cycle (h : Alike m m') : Alike m.cycle m'.cycle := by
  unfold Machine.cycle
  dsimp only
  rw [← h.fetch_eq, ← h.advance_eq]
  exact (h.effect _ _).finish _

theorem timerStep (h : Alike m m') : Alike m.timerStep m'.timerStep :=
  h.map Machine.timerStep (fun _ _ _ _ => rfl) rfl

end Alike

end Machine

end ChipEight
