import ChipEight.Proofs.Lockstep
import ChipEight.Proofs.Periphery

/-!
# Devices

The timers, the keys and the display reach the program through the instructions that read them, and
in no other way. Two machines that differ in one device do the same, and differ in nothing but that
device all the time, as long as the first one does not read it (`differIn_applyAll`). Nothing reads the
sound timer.
-/

namespace ChipEight

/-- A device around the machine. -/
inductive Device where
  | sound
  | delay
  | keys
  | display

namespace Device

/-- The part of the machine that holds what the device shows. -/
def part : Device → Machine.Part
  | sound => .sound
  | delay => .delay
  | keys => .keypad
  | display => .display

/-- The instructions that read the device. Drawing reads the display for its collisions. -/
def readers : Device → List Op
  | sound => []
  | delay => [.readDelay]
  | keys => [.skipKey, .skipNoKey, .awaitKey]
  | display => [.draw]

theorem isPeripheral_part (d : Device) : d.part.IsPeripheral := by
  cases d <;> trivial

end Device

namespace Machine

variable {d : Device} {m m' : Machine}

/-- Two machines that differ at most in a device. -/
abbrev DifferIn (d : Device) : Machine → Machine → Prop := EqualBut (· = d.part)

namespace DifferIn

theorem same {q : Part} (h : DifferIn d m m') (hq : q ≠ d.part) : Same q m' m := (h q hq).symm

theorem isPeripheral {q : Part} (hq : q = d.part) : q.IsPeripheral := hq ▸ d.isPeripheral_part

theorem stack_eq (h : DifferIn d m m') : m'.stack = m.stack := by
  have hslot (k : Fin 16) : Part.slot k ≠ d.part := by cases d <;> nofun
  have hdepth : Part.depth ≠ d.part := by cases d <;> nofun
  exact stack_eq_of_same (fun k => h.same (hslot k)) (h.same hdepth)

/-- An instruction that does not read the device finds everything that it looks at. -/
theorem provides (h : DifferIn d m m') {op : Op} (hop : op ∉ d.readers) :
    m.Provides op m'.periphery where
  stack _ := h.stack_eq
  delay := by
    rintro rfl
    refine h.same (q := .delay) ?_
    cases d with
    | delay => exact absurd List.mem_cons_self hop
    | _ => nofun
  display := by
    rintro rfl
    refine h.same (q := .display) ?_
    cases d with
    | display => exact absurd List.mem_cons_self hop
    | _ => nofun
  keypad := by
    intro hkeys
    refine h.same (q := .keypad) ?_
    cases d with
    | keys => exact absurd (by simpa [Device.readers] using hkeys) hop
    | _ => nofun

end DifferIn

theorem lockstep_differIn (d : Device) : Lockstep d.readers Eq (DifferIn d) where
  fetch_eq h := h.fetch_eq fun _ => DifferIn.isPeripheral
  fault? := by
    intro m m' h
    refine relFault_of_eq ?_
    rw [h.eq_withPeriphery fun _ => DifferIn.isPeripheral]
    exact fault?_withPeriphery (congrArg CallStack.depth h.stack_eq)
  perTick_eq := by
    intro m m' h
    rw [h.eq_withPeriphery fun _ => DifferIn.isPeripheral]
    rfl
  cycle h _ hop := h.cycle (fun _ => DifferIn.isPeripheral) (h.provides hop)
  timerStep := by
    intro m m' h q hq
    have hsame := h q hq
    -- A timer that is the same counts down to the same.
    cases q with
    | delay | sound => exact congrArg countDown hsame
    | ticks => exact congrArg (· + 1) hsame
    | _ => exact hsame

/-- Take two machines that differ at most in a device, and let both run, as long as the first one
carries out none of the instructions that read it. They give the same answers, faults included, and
carry out the same instructions one after the other; before and after each of them, and at the end,
they differ at most in that device. -/
theorem differIn_applyAll (fs : Files) (d : Device) (m m' : Machine) (h : DifferIn d m m')
    (ops : List Operation) (hops : ∀ op ∈ ops, op.executes)
    (hreads : ∀ x ∈ history fs m ops, x.currentOp ∉ d.readers) :
    transcript fs m' ops = transcript fs m ops ∧
    List.Forall₂ (fun x x' => DifferIn d x x' ∧ DifferIn d x.cycle x'.cycle)
      (history fs m ops) (history fs m' ops) ∧
    DifferIn d (m.applyAll fs ops) (m'.applyAll fs ops) := by
  obtain ⟨htranscript, hhistory, hend⟩ := (lockstep_differIn d).applyAll h fs hops hreads
  exact ⟨htranscript.symm, hhistory, hend⟩

/-- A program that makes the machine sound, darkens the display and runs into a word that is no
instruction, four instructions in a tick. -/
def beeper : Machine :=
  { new { cycles := 4 } (.tape (fun _ => 0) 0) with
    memory := Memory.zero.writeAll 0x200 [0x61, 0x05, 0x81, 0x14, 0xF1, 0x18, 0x00, 0xE0] }

/-- A key that nothing reads makes no difference to it, nor to its fault. -/
theorem differIn_applyAll_beeper :
    let fs : Files := ⟨fun _ => .missing, fun _ => none⟩
    let ops : List Operation := [.tick, .run 2]
    transcript fs (beeper.press 3) ops =
      [(.ok .done, [.loadByte, .add, .setSound, .clear]),
        (.error (.fault (.unknownOpcode 0 0x208)), [])] ∧
    DifferIn .keys (beeper.applyAll fs ops) ((beeper.press 3).applyAll fs ops) := by
  intro fs ops
  have hdiffer : DifferIn .keys beeper (beeper.press 3) := by
    intro q hq
    cases q with
    | keypad => exact absurd rfl hq
    | _ => rfl
  have htranscript : transcript fs beeper ops =
      [(.ok .done, [.loadByte, .add, .setSound, .clear]),
        (.error (.fault (.unknownOpcode 0 0x208)), [])] := by
    decide +kernel
  have hreads : ∀ op ∈ (history fs beeper ops).map currentOp, op ∉ Device.keys.readers := by
    decide +kernel
  obtain ⟨hsame, -, hend⟩ := differIn_applyAll fs .keys beeper (beeper.press 3) hdiffer ops
    (by decide) fun x hx => hreads x.currentOp (List.mem_map_of_mem hx)
  exact ⟨hsame.trans htranscript, hend⟩

end Machine

end ChipEight
