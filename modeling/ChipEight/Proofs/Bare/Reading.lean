import ChipEight.Proofs.Bare.Operation
import ChipEight.Proofs.Scan

/-!
# Reading a machine as a bare one

`Machine.bare` forgets the bounds of a machine. Every elementary action on what comes out is the
corresponding function of the machine: no access misses (`run_register`, `run_readCell`,
`run_pixel`, …), and cutting to a byte or a word is what the types do by themselves.
-/

namespace ChipEight

/-! ## Random numbers -/

namespace RandomSource

/-- The bytes that a source will give are the low bytes of a sequence of integers. -/
def Gives (r : RandomSource) (draws : Nat → Int) : Prop :=
  ∀ k, r.upcoming k = byteOfInt (draws (r.drawn + k))

theorem Gives.next {r : RandomSource} {draws : Nat → Int} (h : r.Gives draws) :
    r.next.2.Gives draws := by
  intro k
  have hk := h (k + 1)
  rw [upcoming, after_next, drawn_next]
  rw [upcoming] at hk
  rw [hk, Nat.add_assoc, Nat.add_comm 1 k]

theorem Gives.first {r : RandomSource} {draws : Nat → Int} (h : r.Gives draws) :
    r.next.1 = byteOfInt (draws r.drawn) := h 0

/-- A tape of the low bytes gives them. -/
theorem gives_tape (draws : Nat → Int) (n : Nat) :
    (tape (fun k => byteOfInt (draws k)) n).Gives draws := by
  intro k
  have hafter : (tape (fun k => byteOfInt (draws k)) n).after k =
      tape (fun k => byteOfInt (draws k)) (n + k) := by
    induction k with
    | zero => rfl
    | succ k ih => rw [after, ih]; rfl
  rw [upcoming, hafter]
  rfl

end RandomSource

/-! ## The reading -/

namespace Machine

/-- A machine in integers and lists. -/
def bare (m : Machine) (draws : Nat → Int) : BareMachine where
  memory := m.memory.cells.toList.map fun b => (b.toNat : Int)
  v := m.v.toList.map fun b => (b.toNat : Int)
  i := m.i.toNat
  pc := m.pc.toNat
  sp := m.stack.depth.val
  delay := m.delay.toNat
  sound := m.sound.toNat
  stack := m.stack.slots.toList.map fun a => (a.toNat : Int)
  pixels := m.display.rows.toList.map fun row => row.toList
  keys := m.keypad.keys.toList
  blocked := m.blocked
  switch := m.settings.get
  cyclesPerTick := m.settings.cycles
  draws
  drawn := m.random.drawn
  cycles := m.cycles
  ticks := m.ticks

end Machine

namespace BareMachine

variable (m : Machine) (d : Nat → Int)

@[simp]
theorem isOn_bare (q : Switch) : (m.bare d).isOn q = m.isOn q :=
  congrArg Json.truthy (show (m.bare d).switch q = m.settings.get q from rfl)

/-! ## Places -/

section

variable {α : Type}

theorem run_element {xs : List α} {k : Nat} (h : k < xs.length) (s : BareMachine) :
    (element xs k).run s = .ok xs[k] s := by
  have hk : ¬ (k : Int) < 0 := by omega
  simp [element, hk, List.getElem?_eq_getElem h]

theorem run_replaced {xs : List α} {k : Nat} (h : k < xs.length) (a : α) (s : BareMachine) :
    (replaced xs k a).run s = .ok (xs.set k a) s := by
  have hk : 0 ≤ (k : Int) ∧ (k : Int) < xs.length := by omega
  simp [replaced, hk]

end

/-! ## Registers -/

@[simp]
theorem run_register (r : Register) :
    (register r.val).run (m.bare d) = .ok ((m.reg r).toNat : Int) (m.bare d) := by
  have h : r.val < (m.bare d).v.length := by simp [Machine.bare]
  simp only [register, EStateM.run_bind, EStateM.run_get]
  rw [run_element h]
  simp [Machine.bare, Machine.reg, Vector.get]

theorem bare_setReg (r : Register) (b : UInt8) :
    (m.setReg r b).bare d = { m.bare d with v := (m.bare d).v.set r.val b.toNat } := by
  simp [Machine.bare, Machine.setReg, Vector.toList_set, List.map_set]

@[simp]
theorem run_setRegister (r : Register) (n : Int) :
    (setRegister r.val n).run (m.bare d) = .ok () ((m.setReg r (byteOfInt n)).bare d) := by
  have h : r.val < (m.bare d).v.length := by simp [Machine.bare]
  simp only [setRegister, EStateM.run_bind, EStateM.run_get]
  rw [run_replaced h, bare_setReg, toNat_byteOfInt]
  rfl

/-- Writing the flag does not cut; what is written has to be a byte already. -/
theorem run_setFlag {n : Int} {b : UInt8} (h : n = b.toNat) :
    (setFlag n).run (m.bare d) = .ok () ((m.setFlag b).bare d) := by
  have hf : Machine.flag.val < (m.bare d).v.length := by simp [Machine.bare]
  simp only [setFlag, EStateM.run_bind, EStateM.run_get]
  rw [show (0xF : Int) = (Machine.flag.val : Nat) from rfl, run_replaced hf, Machine.setFlag,
    bare_setReg, h]
  rfl

theorem run_setFlag_flagNumber (c : Bool) :
    (setFlag (flagNumber c)).run (m.bare d) = .ok () ((m.setFlag (Machine.flagOf c)).bare d) :=
  run_setFlag m d (by cases c <;> rfl)

@[simp]
theorem run_setIndex (n : Int) :
    (setIndex n).run (m.bare d) = .ok () ({ m with i := Word.ofInt n }.bare d) := by
  simp [setIndex, Machine.bare, lowWord, Word.toNat_ofInt]

@[simp]
theorem run_setCounter (n : Int) :
    (setCounter n).run (m.bare d) = .ok () ({ m with pc := Word.ofInt n }.bare d) := by
  simp [setCounter, Machine.bare, lowWord, Word.toNat_ofInt]

/-! ## Memory -/

/-- Reading goes by the low twelve bits of the address alone. -/
theorem run_readCell {n : Int} {a : Word} (h : n % 0x1000 = (a.toNat : Int) % 0x1000) :
    (readCell n).run (m.bare d) = .ok ((m.memory.read a).toNat : Int) (m.bare d) := by
  have hk : (cell a).val < (m.bare d).memory.length := by simp [Machine.bare]
  have hc : cellOf n = (cell a).val := by
    simp only [cellOf, cell]
    omega
  simp only [readCell, EStateM.run_bind, EStateM.run_get]
  rw [hc, run_element hk]
  simp [Machine.bare, Memory.read]

theorem run_writeCell {n : Int} {a : Word} (h : n % 0x1000 = (a.toNat : Int) % 0x1000) (v : Int) :
    (writeCell n v).run (m.bare d) =
      .ok () ({ m with memory := m.memory.write a (byteOfInt v) }.bare d) := by
  have hk : (cell a).val < (m.bare d).memory.length := by simp [Machine.bare]
  have hc : cellOf n = (cell a).val := by
    simp only [cellOf, cell]
    omega
  have hv : ¬(lowByte v < 0 ∨ 0xFF < lowByte v) := by
    simp only [lowByte]
    omega
  simp only [writeCell, if_neg hv, EStateM.run_bind, EStateM.run_get, hc, run_replaced hk]
  simp [Machine.bare, Memory.write, Vector.toList_set, List.map_set, toNat_byteOfInt, lowByte]

theorem run_readWord (a : Word) :
    (readWord a.toNat).run (m.bare d) = .ok (m.memory.word a) (m.bare d) := by
  have hhi : (readCell a.toNat).run (m.bare d) = .ok ((m.memory.read a).toNat : Int) (m.bare d) :=
    run_readCell m d rfl
  have hlo : (readCell (a.toNat + 1)).run (m.bare d) =
      .ok ((m.memory.read (a + 1)).toNat : Int) (m.bare d) := by
    apply run_readCell
    simp only [UInt16.toNat_add, UInt16.toNat_one]
    omega
  have hword (hi lo : UInt8) :
      Word.ofInt (Int.lor ((hi.toNat : Int) * 0x100) lo.toNat) = Word.ofBytes hi lo := by
    have hlt : lo.toNat < 2 ^ 8 := lo.toNat_lt
    have hor : hi.toNat * 0x100 ||| lo.toNat = hi.toNat * 0x100 + lo.toNat := by
      rw [show hi.toNat * 0x100 = hi.toNat <<< 8 from by rw [Nat.shiftLeft_eq],
        Nat.shiftLeft_add_eq_or_of_lt hlt]
    have hint : Int.lor ((hi.toNat : Int) * 0x100) lo.toNat =
        ((hi.toNat * 0x100 ||| lo.toNat : Nat) : Int) := rfl
    have := hi.toNat_lt
    rw [hint, hor, Word.ofInt_eq_iff, Word.toNat_ofBytes]
    omega
  simp only [readWord, EStateM.run_bind, hhi, hlo, hword]
  rfl

theorem run_fetch : (readWord m.pc.toNat).run (m.bare d) = .ok m.fetch (m.bare d) :=
  run_readWord m d m.pc

/-! ## Call stack -/

theorem run_push_of_some {a : Word} {t : CallStack} (h : m.stack.push? a = some t) :
    (push a.toNat).run (m.bare d) = .ok () ({ m with stack := t }.bare d) := by
  unfold CallStack.push? at h
  split at h
  case isFalse => cases h
  case isTrue hlt =>
    cases h
    have hk : m.stack.depth.val < (m.bare d).stack.length := by simpa [Machine.bare] using hlt
    have hsp : ¬(16 : Int) ≤ (m.bare d).sp := by
      simp only [Machine.bare]
      omega
    have hw : lowWord a.toNat = a.toNat := by
      have := a.toNat_lt
      simp only [lowWord]
      omega
    have hr := run_replaced hk (lowWord a.toNat) (m.bare d)
    simp only [push, EStateM.run_bind, EStateM.run_get, if_neg hsp]
    rw [show (m.bare d).sp = (m.stack.depth.val : Int) from rfl, hr]
    simp [Machine.bare, Vector.toList_set, List.map_set, hw]

theorem run_push_of_full (a : Int) (h : m.stack.depth.val = 16) :
    (push a).run (m.bare d) = .error (.stackOverflow m.pc.toNat) (m.bare d) := by
  simp [push, Machine.bare, h]

theorem run_pop_of_some {a : Word} {t : CallStack} (h : m.stack.pop? = some (a, t)) :
    pop.run (m.bare d) = .ok (a.toNat : Int) ({ m with stack := t }.bare d) := by
  unfold CallStack.pop? at h
  split at h
  case isFalse => cases h
  case isTrue hpos =>
    cases h
    have hlt := m.stack.depth.isLt
    have hsp : ¬(m.bare d).sp = 0 := by
      simp only [Machine.bare]
      omega
    have hk : m.stack.depth.val - 1 < (m.bare d).stack.length := by
      simp only [Machine.bare, List.length_map, Vector.length_toList]
      omega
    have hdec : (m.bare d).sp - 1 = ((m.stack.depth.val - 1 : Nat) : Int) := by
      simp only [Machine.bare]
      omega
    simp only [pop, EStateM.run_bind, EStateM.run_get, if_neg hsp, EStateM.run_modify, hdec]
    rw [run_element hk]
    simp [Machine.bare, Vector.get]

theorem run_pop_of_empty (h : m.stack.depth.val = 0) :
    pop.run (m.bare d) = .error (.stackUnderflow m.pc.toNat) (m.bare d) := by
  simp [pop, Machine.bare, h]

/-! ## Display -/

theorem run_pixel {x y : Nat} (hx : x < Layout.displayWidth)
    (hy : y < Layout.displayHeight) :
    (pixel x y).run (m.bare d) = .ok (m.display.lit x y) (m.bare d) := by
  have hrow : y < (m.bare d).pixels.length := by simpa [Machine.bare] using hy
  have hrowy : (m.bare d).pixels[y] = m.display.rows[y].toList := by simp [Machine.bare]
  have hcol : x < m.display.rows[y].toList.length := by simpa using hx
  simp only [pixel, EStateM.run_bind, EStateM.run_get]
  rw [run_element hrow, hrowy]
  simp only
  rw [run_element hcol]
  simp [Grid.lit, hx, hy]

theorem run_flipPixel {x y : Nat} (hx : x < Layout.displayWidth)
    (hy : y < Layout.displayHeight) :
    (flipPixel x y).run (m.bare d) =
      .ok () ({ m with display := m.display.flip x y }.bare d) := by
  have hrow : y < (m.bare d).pixels.length := by simpa [Machine.bare] using hy
  have hrowy : (m.bare d).pixels[y] = m.display.rows[y].toList := by simp [Machine.bare]
  have hcol : x < m.display.rows[y].toList.length := by simpa using hx
  simp only [flipPixel, EStateM.run_bind, EStateM.run_get, run_element hrow, hrowy,
    run_element hcol, run_replaced hcol, run_replaced hrow]
  simp [Machine.bare, Grid.flip, hx, hy, Vector.toList_set, List.map_set]

/-- The pixels of a sprite row that are looked at lie inside the display. -/
theorem run_drawPixels (x y : Nat) (hy : y < Layout.displayHeight) (row : Int) (ks : List Nat)
    (hit : Bool) :
    (drawPixels x y row ks hit).run (m.bare d) =
      let drawn := m.display.scanRow x y row ks hit
      .ok drawn.1 ({ m with display := drawn.2 }.bare d) := by
  induction ks generalizing m hit with
  | nil => rfl
  | cons k ks ih =>
    have hcast : (x : Int) + (k : Int) = ((x + k : Nat) : Int) := rfl
    rw [drawPixels, Grid.scanRow, hcast]
    by_cases hbit : Grid.rowBit row k
    · rw [if_pos hbit, if_pos hbit]
      by_cases hx : Layout.displayWidth ≤ x + k
      · rw [if_pos (Int.ofNat_le.mpr hx), if_pos hx]
        rfl
      · have hlt : ¬(Layout.displayWidth : Int) ≤ ((x + k : Nat) : Int) := by omega
        rw [if_neg hlt, if_neg hx]
        simp only [EStateM.run_bind, run_pixel m d (Nat.lt_of_not_le hx) hy,
          run_flipPixel m d (Nat.lt_of_not_le hx) hy, ih]
    · rw [if_neg hbit, if_neg hbit]
      exact ih m hit

theorem run_drawRows (x : Nat) (rows : List Int) (hit : Bool) (y : Nat) :
    (drawRows x y rows hit).run (m.bare d) =
      let drawn := m.display.scanRows x y rows hit
      .ok drawn.1 ({ m with display := drawn.2 }.bare d) := by
  induction rows generalizing m y hit with
  | nil => rfl
  | cons row rows ih =>
    rw [drawRows, Grid.scanRows]
    by_cases hy : Layout.displayHeight ≤ y
    · rw [if_pos (Int.ofNat_le.mpr hy), if_pos hy]
      rfl
    · have hlt : ¬(Layout.displayHeight : Int) ≤ (y : Int) := by omega
      have hcast : (y : Int) + 1 = ((y + 1 : Nat) : Int) := rfl
      rw [if_neg hlt, if_neg hy]
      simp only [EStateM.run_bind, run_drawPixels m d x y (Nat.lt_of_not_le hy), hcast, ih]

/-! ## Keys and random numbers -/

@[simp]
theorem run_keyPressed (n : Int) :
    (keyPressed n).run (m.bare d) = .ok (m.keypad.isPressed n) (m.bare d) := by
  have hk : (Keypad.select n).val < (m.bare d).keys.length := by simp [Machine.bare]
  have hn : n % 0x10 = ((Keypad.select n).val : Nat) := (Nibble.val_ofInt n).symm
  simp only [keyPressed, EStateM.run_bind, EStateM.run_get]
  rw [hn, run_element hk]
  simp [Machine.bare, Keypad.isPressed, Vector.get]

theorem firstPressed_bare : (m.bare d).firstPressed = m.keypad.first?.map (·.val) :=
  m.keypad.findIdx?_keys

theorem run_draw : draw.run (m.bare d) =
    .ok (d m.random.drawn) ({ m with random := m.random.next.2 }.bare d) := by
  simp [draw, Machine.bare]

end BareMachine

end ChipEight
