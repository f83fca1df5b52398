import ChipEight.Proofs.Footprint

/-!
# Around the registers and the memory

Most instructions deal with registers and memory. The stack, the timers, the display and the keys
around them each matter to a few: `Machine.Provides` lists which instruction looks at what. All others
do the same with any periphery in place, and leave it as it is but for what they write
(`effect_withPeriphery`). So two machines that differ only in the periphery, in parts that the
instruction does not look at, differ in no other parts after it (`EqualBut.cycle`).
-/

namespace ChipEight.Machine

/-- The parts around the registers and the memory. -/
structure Periphery where
  stack : CallStack
  delay : UInt8
  sound : UInt8
  display : Screen
  keypad : Keypad

def periphery (m : Machine) : Periphery := ⟨m.stack, m.delay, m.sound, m.display, m.keypad⟩

/-- The machine with another periphery. -/
def withPeriphery (m : Machine) (p : Periphery) : Machine :=
  { m with
    stack := p.stack, delay := p.delay, sound := p.sound, display := p.display, keypad := p.keypad }

/-- A periphery is as the machine's own in all that the instruction looks at. -/
structure Provides (m : Machine) (op : Op) (p : Periphery) : Prop where
  stack : op = .call ∨ op = .ret → p.stack = m.stack
  delay : op = .readDelay → p.delay = m.delay
  display : op = .draw → p.display = m.display
  keypad : op = .skipKey ∨ op = .skipNoKey ∨ op = .awaitKey → p.keypad = m.keypad

/-- What becomes of a periphery: what the instruction writes is as after the instruction, and the rest
as it was. -/
def peripheryAfter (m : Machine) (op : Op) (w : Word) (p : Periphery) : Periphery where
  stack := if op = .call ∨ op = .ret then (m.effect op w).stack else p.stack
  delay := if op = .setDelay then (m.effect op w).delay else p.delay
  sound := if op = .setSound then (m.effect op w).sound else p.sound
  display := if op = .clear ∨ op = .draw then (m.effect op w).display else p.display
  keypad := p.keypad

section

variable (m : Machine) {op : Op} (w : Word) {p : Periphery}

theorem clearFlagIf_withPeriphery (p : Periphery) (c : Bool) :
    (m.withPeriphery p).clearFlagIf c = (m.clearFlagIf c).withPeriphery p := by
  unfold clearFlagIf
  split <;> rfl

theorem moveIndexIf_withPeriphery (p : Periphery) (c : Bool) (x : Register) :
    (m.withPeriphery p).moveIndexIf c x = (m.moveIndexIf c x).withPeriphery p := by
  unfold moveIndexIf
  split <;> rfl

theorem addToIndex_withPeriphery (p : Periphery) (r : Register) :
    (m.withPeriphery p).addToIndex r = (m.addToIndex r).withPeriphery p := by
  have hon : (m.withPeriphery p).isOn .indexOverflow = m.isOn .indexOverflow := rfl
  unfold addToIndex
  dsimp only
  rw [hon]
  split <;> rfl

theorem enter_withPeriphery (hstack : p.stack = m.stack) (target : Word) :
    (m.withPeriphery p).enter target =
      (m.enter target).withPeriphery { p with stack := (m.enter target).stack } := by
  have hpush : (m.withPeriphery p).stack.push? (m.withPeriphery p).pc = m.stack.push? m.pc :=
    congrArg (CallStack.push? · m.pc) hstack
  rw [enter, enter, hpush]
  cases m.stack.push? m.pc with
  | some stack => rfl
  | none =>
    show m.withPeriphery p = m.withPeriphery { p with stack := m.stack }
    rw [← hstack]

theorem leave_withPeriphery (hstack : p.stack = m.stack) :
    (m.withPeriphery p).leave = m.leave.withPeriphery { p with stack := m.leave.stack } := by
  have hpop : (m.withPeriphery p).stack.pop? = m.stack.pop? := congrArg CallStack.pop? hstack
  rw [leave, leave, hpop]
  cases m.stack.pop? with
  | some r => rfl
  | none =>
    show m.withPeriphery p = m.withPeriphery { p with stack := m.stack }
    rw [← hstack]

theorem drawSprite_withPeriphery (hdisplay : p.display = m.display) (x y : UInt8) (n : Nat) :
    (m.withPeriphery p).drawSprite x y n =
      (m.drawSprite x y n).withPeriphery { p with display := (m.drawSprite x y n).display } := by
  have hsame : (m.withPeriphery p).display = m.display := hdisplay
  rw [drawSprite, drawSprite, hsame]
  rfl

theorem takeKey_withPeriphery (hkeypad : p.keypad = m.keypad) (r : Register) :
    (m.withPeriphery p).takeKey r = (m.takeKey r).withPeriphery p := by
  have hfirst : (m.withPeriphery p).keypad.first? = m.keypad.first? :=
    congrArg Keypad.first? hkeypad
  rw [takeKey, takeKey, hfirst]
  cases m.keypad.first? <;> rfl

/-- An instruction that finds what it looks at does the same with any periphery in place. -/
theorem effect_withPeriphery (h : m.Provides op p) :
    (m.withPeriphery p).effect op w =
      (m.effect op w).withPeriphery (m.peripheryAfter op w p) := by
  cases op with
  | ret => exact leave_withPeriphery m (h.stack (.inr rfl))
  | call => exact enter_withPeriphery m (h.stack (.inl rfl)) w.nnn
  | draw => exact drawSprite_withPeriphery m (h.display rfl) _ _ _
  | awaitKey => exact takeKey_withPeriphery m (h.keypad (.inr (.inr rfl))) w.x
  | readDelay =>
    show (m.withPeriphery p).setReg w.x p.delay = (m.setReg w.x m.delay).withPeriphery p
    rw [h.delay rfl]
    rfl
  | or | and | xor => exact clearFlagIf_withPeriphery (m.setReg w.x _) p _
  | addIndex => exact addToIndex_withPeriphery m p w.x
  | store => exact moveIndexIf_withPeriphery (m.storeRegisters w.x) p _ w.x
  | load => exact moveIndexIf_withPeriphery (m.loadRegisters w.x) p _ w.x
  | _ => rfl

/-- By how many bytes `PC` moves on may depend on the keys, and on no other part of a periphery. -/
theorem advance_withPeriphery (h : m.Provides op p) :
    (m.withPeriphery p).advance op w = m.advance op w := by
  have hkeys (hop : op = .skipKey ∨ op = .skipNoKey ∨ op = .awaitKey) :
      (m.withPeriphery p).keypad = m.keypad := h.keypad hop
  cases op with
  | skipKey => rw [advance, advance, hkeys (.inl rfl)]; rfl
  | skipNoKey => rw [advance, advance, hkeys (.inr (.inl rfl))]; rfl
  | awaitKey => rw [advance, advance, hkeys (.inr (.inr rfl))]
  | _ => rfl

end

/-! ## Cycles -/

section

variable {m : Machine} {p : Periphery}

theorem cycle_withPeriphery (h : m.Provides m.currentOp p) :
    (m.withPeriphery p).cycle =
      m.cycle.withPeriphery (m.peripheryAfter m.currentOp m.fetch p) := by
  have hfetch : (m.withPeriphery p).fetch = m.fetch := rfl
  have hadvance := advance_withPeriphery m m.fetch h
  have heffect := effect_withPeriphery m m.fetch h
  rw [currentOp] at hadvance heffect
  unfold cycle
  dsimp only
  rw [hfetch, hadvance, heffect]
  rfl

/-- Of a periphery, only the number of saved addresses decides about faults. -/
theorem fault?_withPeriphery (hdepth : p.stack.depth = m.stack.depth) :
    (m.withPeriphery p).fault? = m.fault? := by
  have hop : (m.withPeriphery p).currentOp = m.currentOp := rfl
  rw [fault?, fault?, hop]
  cases m.currentOp with
  | call =>
    show (if p.stack.depth.val = 16 then _ else _) = _
    rw [hdepth]
    rfl
  | ret =>
    show (if p.stack.depth.val = 0 then _ else _) = _
    rw [hdepth]
    rfl
  | _ => rfl

/-- A part that is the same before the instruction is the same after it: either it was written
alike, or not at all. -/
theorem same_peripheryAfter (op : Op) (w : Word) {q : Part} (h : Same q m (m.withPeriphery p)) :
    Same q (m.effect op w) ((m.effect op w).withPeriphery (m.peripheryAfter op w p)) := by
  have hstack : op ≠ .call → op ≠ .ret → (m.effect op w).stack = m.stack := stack_effect m w
  cases q with
  | slot k =>
    show (m.effect op w).stack.slots[k] = (ite _ _ _ : CallStack).slots[k]
    by_cases hop : op = .call ∨ op = .ret
    · rw [if_pos hop]
    · rw [if_neg hop, hstack (fun hcall => hop (.inl hcall)) (fun hret => hop (.inr hret))]
      exact h
  | depth =>
    show (m.effect op w).stack.depth = (ite _ _ _ : CallStack).depth
    by_cases hop : op = .call ∨ op = .ret
    · rw [if_pos hop]
    · rw [if_neg hop, hstack (fun hcall => hop (.inl hcall)) (fun hret => hop (.inr hret))]
      exact h
  | delay =>
    show (m.effect op w).delay = ite _ _ _
    by_cases hop : op = .setDelay
    · rw [if_pos hop]
    · rw [if_neg hop]
      exact (same_effect m w (p := .delay) hop).trans h
  | sound =>
    show (m.effect op w).sound = ite _ _ _
    by_cases hop : op = .setSound
    · rw [if_pos hop]
    · rw [if_neg hop]
      exact (same_effect m w (p := .sound) hop).trans h
  | display =>
    show (m.effect op w).display = ite _ _ _
    by_cases hop : op = .clear ∨ op = .draw
    · rw [if_pos hop]
    · rw [if_neg hop]
      exact (same_effect m w (p := .display) hop).trans h
  | keypad => exact (same_effect m w (p := .keypad) id).trans h
  | _ => rfl

end

/-! ## Machines that differ in the periphery -/

/-- Is the part one of the periphery? -/
def Part.IsPeripheral : Part → Prop
  | .slot _ | .depth | .delay | .sound | .display | .keypad => True
  | _ => False

theorem same_withPeriphery (m : Machine) (p : Periphery) {q : Part} (hq : ¬q.IsPeripheral) :
    Same q m (m.withPeriphery p) := by
  cases q with
  | slot | depth | delay | sound | display | keypad => exact absurd trivial hq
  | _ => rfl

theorem same_withPeriphery_periphery (m m' : Machine) {q : Part} (hq : q.IsPeripheral) :
    Same q m' (m.withPeriphery m'.periphery) := by
  cases q with
  | slot | depth | delay | sound | display | keypad => rfl
  | _ => exact hq.elim

/-- Two machines that are the same in all parts but the ones set apart. -/
def EqualBut (apart : Part → Prop) (m m' : Machine) : Prop :=
  ∀ q, ¬apart q → Same q m m'

namespace EqualBut

variable {apart : Part → Prop} {m m' : Machine} (h : EqualBut apart m m')
  (hapart : ∀ q, apart q → q.IsPeripheral)
include h hapart

theorem eq_withPeriphery : m' = m.withPeriphery m'.periphery := by
  refine eq_of_same fun q => ?_
  by_cases hq : q.IsPeripheral
  · exact same_withPeriphery_periphery m m' hq
  · have hsame : Same q m m' := h q fun ha => hq (hapart q ha)
    exact hsame.symm.trans (same_withPeriphery m m'.periphery hq)

theorem fetch_eq : m.fetch = m'.fetch := by
  rw [h.eq_withPeriphery hapart]
  rfl

/-- An instruction that looks at none of the parts set apart leaves all others the same. -/
theorem cycle (hprovides : m.Provides m.currentOp m'.periphery) :
    EqualBut apart m.cycle m'.cycle := by
  have hm' := h.eq_withPeriphery hapart
  intro q hq
  have hsame : Same q m (m.withPeriphery m'.periphery) := hm' ▸ h q hq
  have heffect := same_peripheryAfter m.currentOp m.fetch hsame
  rw [hm', cycle_withPeriphery hprovides]
  cases q with
  | slot | depth | delay | sound | display | keypad => exact heffect
  | _ => rfl

end EqualBut

end ChipEight.Machine
