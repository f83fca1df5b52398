import ChipEight.Proofs.Calls
import ChipEight.Proofs.Waiting

/-!
# Where the program goes on

The next value of `PC` comes from two places: an instruction may set `PC` itself, and the end of the cycle
moves it on by a distance that depends on the instruction. Here both are one table in numbers, read off the
machine before the cycle. `Machine.destination?` is where the jumps, calls and returns go, and where an
instruction stays that waits for a key; `Machine.skips` is the condition of the skips. Any other cycle goes
on with the next instruction (`Machine.next_counter`).
-/

namespace ChipEight

namespace Machine

/-! ## The table -/

/-- Does the instruction skip the next one? -/
def skips (m : Machine) (w : Word) : Bool :=
  let vx := (m.reg w.x).toNat
  let vy := (m.reg w.y).toNat
  match decode w with
  | .skipEqByte => decide (vx = w.toNat % 0x100)
  | .skipNeByte => decide (vx ≠ w.toNat % 0x100)
  | .skipEqReg => decide (vx = vy)
  | .skipNeReg => decide (vx ≠ vy)
  | .skipKey => decide (Nibble.ofNat vx ∈ m.keypad.pressed)
  | .skipNoKey => decide (Nibble.ofNat vx ∉ m.keypad.pressed)
  | _ => false

/-- Where the program goes on after an instruction that does not go on with one of those that follow it. -/
def destination? (m : Machine) (w : Word) : Option Nat :=
  match decode w with
  | .jump | .call => some (w.toNat % 0x1000)
  | .jumpOffset => some (w.toNat % 0x1000 + (m.reg (if m.isOn .jumping then w.x else .ofNat 0)).toNat)
  | .ret => m.stack.frames.getLast?.map fun a => (a.toNat + 2) % 0x10000
  | .awaitKey => if m.keypad.pressed = [] then some m.pc.toNat else none
  | _ => none

/-! ## Distances -/

theorem toNat_skipIf (c : Bool) : (skipIf c).toNat = if c then 4 else 2 := by
  cases c <;> rfl

theorem beq_eq_decide_toNat (a b : UInt8) : (a == b) = decide (a.toNat = b.toNat) := by
  rw [Bool.eq_iff_iff, beq_iff_eq, decide_eq_true_iff, UInt8.toNat_inj]

theorem bne_eq_decide_toNat (a b : UInt8) : (a != b) = decide (a.toNat ≠ b.toNat) := by
  rw [bne, beq_eq_decide_toNat, decide_not]

theorem isPressed_eq_decide (keypad : Keypad) (n : Nat) :
    keypad.isPressed n = decide (Nibble.ofNat n ∈ keypad.pressed) := by
  have hkey : Keypad.select n = Nibble.ofNat n := by
    refine Fin.ext ?_
    show ((n : Int) % 16).toNat % 16 = n % 16
    omega
  rw [Bool.eq_iff_iff, decide_eq_true_iff, Keypad.mem_pressed, Keypad.isPressed, hkey]

/-- An instruction without a destination of its own moves on by one step, or by two if it skips. -/
theorem advance_of_destination_none {m : Machine} {w : Word} (hop : decode w ≠ .unknown)
    (hnone : m.destination? w = none) : m.advance (decode w) w = skipIf (m.skips w) := by
  unfold destination? at hnone
  unfold skips
  cases h : decode w with
  | unknown => exact absurd h hop
  | jump | call | jumpOffset =>
    rw [h] at hnone
    cases hnone
  | skipEqByte | skipNeByte | skipEqReg | skipNeReg | skipKey | skipNoKey =>
    simp only [advance, beq_eq_decide_toNat, bne_eq_decide_toNat, isPressed_eq_decide, Word.toNat_nn,
      decide_not]
  | awaitKey =>
    rw [h] at hnone
    have hpressed : m.keypad.pressed ≠ [] := by
      intro hempty
      simp only [hempty] at hnone
      cases hnone
    have hfirst : m.keypad.first?.isSome := by
      rw [Keypad.first?_eq_head?, List.isSome_head?]
      simpa using hpressed
    rw [advance, if_pos hfirst]
    rfl
  | _ => rfl

/-! ## The next value of the counter -/

section

variable {m : Machine}

theorem pc_cycle {op : Op} (hop : decode m.fetch = op) :
    m.cycle.pc = (m.effect op m.fetch).pc + m.advance op m.fetch := by
  subst hop
  rfl

/-- Jumps, calls and returns apart, the counter only moves on by a distance. -/
theorem toNat_pc_cycle_of_keeps {op : Op} (hop : decode m.fetch = op)
    (hkeeps : ¬m.mayWrite op m.fetch .counter) :
    m.cycle.pc.toNat = (m.pc.toNat + (m.advance op m.fetch).toNat) % 0x10000 := by
  have hpc : (m.effect op m.fetch).pc = m.pc := same_effect m m.fetch (p := .counter) hkeeps
  rw [pc_cycle hop, hpc, UInt16.toNat_add]

theorem pc_cycle_jump (hop : decode m.fetch = .jump) : m.cycle.pc = m.fetch.nnn := by
  rw [pc_cycle hop]
  exact UInt16.add_zero _

theorem pc_cycle_call (hm : m.fault? = none) (hop : decode m.fetch = .call) :
    m.cycle.pc = m.fetch.nnn := by
  have hroom : ¬m.stack.depth.val = 16 := fun h => (fault?_eq_none_iff.mp hm).2.1 ⟨hop, h⟩
  have hpc : (m.enter m.fetch.nnn).pc = m.fetch.nnn := by
    unfold enter
    split
    · rfl
    · next hfull => exact absurd ((CallStack.push?_eq_none_iff _ _).mp hfull) hroom
  rw [pc_cycle hop]
  exact (UInt16.add_zero _).trans hpc

theorem toNat_pc_cycle_jumpOffset (hop : decode m.fetch = .jumpOffset) :
    m.cycle.pc.toNat = m.fetch.toNat % 0x1000 +
      (m.reg (if m.isOn .jumping then m.fetch.x else .ofNat 0)).toNat := by
  have hb := (m.reg (m.jumpRegister m.fetch)).toNat_lt
  rw [pc_cycle hop]
  show (m.fetch.nnn + UInt16.ofNat (m.reg (m.jumpRegister m.fetch)).toNat + 0).toNat =
    m.fetch.toNat % 0x1000 + (m.reg (m.jumpRegister m.fetch)).toNat
  -- The sum of twelve bits and eight bits does not leave the sixteen of a word.
  rw [UInt16.add_zero, UInt16.toNat_add, UInt16.toNat_ofNat', Word.toNat_nnn]
  omega

theorem toNat_pc_cycle_of_some (hm : m.fault? = none) {t : Nat}
    (hsome : m.destination? m.fetch = some t) : m.cycle.pc.toNat = t := by
  unfold destination? at hsome
  cases hop : decode m.fetch with
  | jump =>
    rw [hop] at hsome
    obtain rfl := Option.some.inj hsome
    rw [pc_cycle_jump hop, Word.toNat_nnn]
  | call =>
    rw [hop] at hsome
    obtain rfl := Option.some.inj hsome
    rw [pc_cycle_call hm hop, Word.toNat_nnn]
  | jumpOffset =>
    rw [hop] at hsome
    obtain rfl := Option.some.inj hsome
    exact toNat_pc_cycle_jumpOffset hop
  | ret =>
    obtain ⟨a, hframes, hpc⟩ := frames_cycle_ret hm hop
    rw [hop, hframes] at hsome
    simp only [List.getLast?_concat, Option.map_some] at hsome
    obtain rfl := Option.some.inj hsome
    rw [hpc, UInt16.toNat_add]
    rfl
  | awaitKey =>
    rw [hop] at hsome
    simp only [Option.ite_none_right_eq_some] at hsome
    obtain ⟨hempty, hsome⟩ := hsome
    obtain rfl := Option.some.inj hsome
    have hwaits : m.Waits := ⟨hop, Keypad.first?_eq_none hempty⟩
    rw [hwaits.cycle]
    rfl
  | _ =>
    rw [hop] at hsome
    cases hsome

theorem toNat_pc_cycle_of_none (hm : m.fault? = none) (hnone : m.destination? m.fetch = none) :
    m.cycle.pc.toNat = (m.pc.toNat + if m.skips m.fetch then 4 else 2) % 0x10000 := by
  have hop : decode m.fetch ≠ .unknown := (fault?_eq_none_iff.mp hm).1
  have hkeeps : ¬m.mayWrite (decode m.fetch) m.fetch .counter := by
    rintro (h | h | h | h)
    · simp [destination?, h] at hnone
    · simp [destination?, h] at hnone
    · -- A return that is carried out finds an address.
      obtain ⟨a, hframes, -⟩ := frames_cycle_ret hm h
      simp [destination?, h, hframes] at hnone
    · simp [destination?, h] at hnone
  rw [toNat_pc_cycle_of_keeps rfl hkeeps, advance_of_destination_none hop hnone, toNat_skipIf]

end

/-- A cycle that is carried out executes the word in the two cells that `PC` selects, around the end of
memory. The next `PC` is the destination of that instruction if it has one, and else two bytes on, or four
if the instruction skips. All this is decided by the machine before the cycle. -/
theorem next_counter (fs : Files) (m m' : Machine) (r : Reply)
    (h : m.apply fs .cycle = (.ok r, m')) :
    let p := m.pc.toNat
    let w := Word.ofBytes m.memory.cells[p % 4096] m.memory.cells[(p + 1) % 4096]
    r = .ran (decode w) ∧
      m'.pc.toNat =
        (m.destination? w).getD ((p + if m.skips w then 4 else 2) % 0x10000) := by
  intro p w
  have hw : m.fetch = w := by
    show Word.ofBytes (m.memory.read m.pc) (m.memory.read (m.pc + 1)) = w
    have hlow : m.memory.read (m.pc + 1) = m.memory.cells[(p + 1) % 4096] :=
      m.memory.read_add m.pc 1
    rw [hlow]
    rfl
  cases hfault : m.fault? with
  | some f =>
    rw [apply_cycle_of_fault fs hfault] at h
    cases h
  | none =>
    rw [apply_cycle_of_none fs hfault] at h
    cases h
    rw [← hw]
    refine ⟨rfl, ?_⟩
    cases hdestination : m.destination? m.fetch with
    | some t => exact toNat_pc_cycle_of_some hfault hdestination
    | none => exact toNat_pc_cycle_of_none hfault hdestination

/-- A skip whose word lies in the last and in the first cell, from the last address of all. -/
theorem next_counter_wrapped :
    let fs : Files := ⟨fun _ => .missing, fun _ => none⟩
    let m : Machine :=
      { new .standard (.tape (fun _ => 0) 0) with
        memory := Memory.zero.writeAll 0xFFF [0x31, 0x00], pc := 0xFFFF }
    ∃ m', m.apply fs .cycle = (.ok (.ran .skipEqByte), m') ∧ m'.pc.toNat = 3 := by
  intro fs m
  have hfault : m.fault? = none := by decide +kernel
  have hop : m.currentOp = .skipEqByte := by decide +kernel
  have hcycle : m.apply fs .cycle = (.ok (.ran .skipEqByte), m.cycle) := by
    rw [apply_cycle_of_none fs hfault, hop]
  obtain ⟨-, hpc⟩ := next_counter fs m m.cycle (.ran .skipEqByte) hcycle
  exact ⟨m.cycle, hcycle, hpc.trans (by decide +kernel)⟩

end Machine

end ChipEight
