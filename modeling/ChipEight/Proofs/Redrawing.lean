import ChipEight.Machine.Execute
import ChipEight.Proofs.Overlays

/-!
# Erasing by drawing again

The instruction DXYN draws the bytes from `I` on, around the end of memory, at the position that VX and VY
give. The flag is written last and to VF alone, so that the same instruction finds the same sprite and the
same position a second time, and takes back what it has drawn (`Machine.drawSprite_drawSprite`).

What the two flags say is said of the bits of the sprite that land on the screen (`Machine.VisibleBit`): the
first drawing hits if one of them lands on a lit pixel, and the second one if one of them lands on a pixel
that was dark at first (`Machine.draw_twice`). A bit that lands on a lit pixel is no hit for the second
drawing, which finds the pixel dark (`Machine.redrawn_without_hit`).
-/

namespace ChipEight

namespace Machine

/-! ## Sprites in memory -/

/-- The column of the screen in which a sprite starts. -/
def startColumn (m : Machine) (x : Register) : Nat := (m.reg x).toNat % 64

/-- The row of the screen in which a sprite starts. -/
def startRow (m : Machine) (y : Register) : Nat := (m.reg y).toNat % 32

/-- Is the bit in column `i` and row `j` of a sprite of `n` rows set, and does it land on the screen? A
sprite that runs off the right or the lower edge is cut off there. -/
def VisibleBit (m : Machine) (x y : Register) (n i j : Nat) : Prop :=
  i < 8 ∧ j < n ∧ m.memory.cells[(m.i.toNat + j) % 4096].toNat.testBit (7 - i) ∧
    m.startColumn x + i < 64 ∧ m.startRow y + j < 32

instance (m : Machine) (x y : Register) (n i j : Nat) : Decidable (m.VisibleBit x y n i j) :=
  inferInstanceAs (Decidable (_ ∧ _))

/-- The rows of the sprite to which `I` points. -/
def spriteRows (m : Machine) (n : Nat) : List Int :=
  (m.memory.readAll m.i n).map fun b => (b.toNat : Int)

theorem spriteBit_spriteRows (m : Machine) (n i j : Nat) :
    Grid.spriteBit (m.spriteRows n) i j ↔
      i < 8 ∧ j < n ∧ m.memory.cells[(m.i.toNat + j) % 4096].toNat.testBit (7 - i) := by
  have hcolumn : (7 - (i : Int)).toNat = 7 - i := by omega
  rw [Grid.spriteBit_iff, Int.toNat_natCast, spriteRows, List.getElem?_map,
    Memory.getElem?_readAll, hcolumn]
  by_cases hj : j < n
  · simp [hj, Int.testBit]
  · simp [hj]

/-- What is true of the struck pixels is true of the pixels on which the visible bits land. -/
theorem exists_struck_iff (m : Machine) (x y : Register) (n : Nat) (P : Nat → Nat → Prop) :
    (∃ p ∈ Grid.struck Layout.displayWidth Layout.displayHeight (m.reg x).toNat (m.reg y).toNat
        (m.spriteRows n), P p.1 p.2) ↔
      ∃ i j, m.VisibleBit x y n i j ∧ P (m.startColumn x + i) (m.startRow y + j) := by
  have hcolumn : Grid.wrap (m.reg x).toNat Layout.displayWidth = m.startColumn x := by
    show (((m.reg x).toNat : Int) % (64 : Nat)).toNat = (m.reg x).toNat % 64
    omega
  have hrow : Grid.wrap (m.reg y).toNat Layout.displayHeight = m.startRow y := by
    show (((m.reg y).toNat : Int) % (32 : Nat)).toNat = (m.reg y).toNat % 32
    omega
  rw [Grid.exists_struck_iff (by decide) (by decide), hcolumn, hrow]
  simp only [spriteBit_spriteRows, VisibleBit, and_assoc]
  rfl

/-! ## The instruction -/

theorem execute_draw (m : Machine) (x y n : Nibble) :
    m.execute (.ofDigits 0xD x y n) = .ok (2, m.drawSprite (m.reg x) (m.reg y) n.val) := by
  have hop : decode (.ofDigits 0xD x y n) = .draw := by
    rw [decode, Word.group_ofDigits]
    rfl
  rw [m.execute_of_none hop rfl]
  simp only [advance, effect, Word.x_ofDigits, Word.y_ofDigits, Word.n_ofDigits]
  rfl

theorem reg_flag_drawSprite (m : Machine) (a b : UInt8) (n : Nat) :
    (m.drawSprite a b n).reg flag =
      flagOf (m.display.draw a.toNat b.toNat (m.spriteRows n)).1 :=
  reg_setReg_self m flag _

theorem reg_drawSprite_of_ne (m : Machine) (a b : UInt8) (n : Nat) {r : Register} (hr : r ≠ flag) :
    (m.drawSprite a b n).reg r = m.reg r :=
  reg_setReg_of_ne m _ hr.symm

theorem setFlag_setFlag (m : Machine) (f f' : UInt8) :
    (m.setFlag f).setFlag f' = m.setFlag f' :=
  congrArg (fun v => ({ m with v } : Machine)) (Vector.set_set _ flag.val_lt)

/-- Drawing again at the same position takes back what was drawn. -/
theorem drawSprite_drawSprite (m : Machine) (a b : UInt8) (n : Nat) :
    (m.drawSprite a b n).drawSprite a b n =
      m.setFlag (flagOf ((m.display.draw a.toNat b.toNat (m.spriteRows n)).2.draw
        a.toNat b.toNat (m.spriteRows n)).1) := by
  let first := m.display.draw a.toNat b.toNat (m.spriteRows n)
  let second := first.2.draw a.toNat b.toNat (m.spriteRows n)
  let o : Grid.Overlay := ⟨a.toNat, b.toNat, m.spriteRows n⟩
  have hdisplay : second.2 = m.display :=
    Grid.draw_draw (by decide) (by decide) m.display o o rfl
  calc (m.drawSprite a b n).drawSprite a b n
      = { (m.setFlag (flagOf first.1)).setFlag (flagOf second.1) with display := second.2 } := rfl
    _ = { m.setFlag (flagOf second.1) with display := m.display } := by
        rw [setFlag_setFlag, hdisplay]

/-- Drawing a sprite twice, with neither of its coordinates in VF, changes nothing but VF. The first time VF
becomes 1 if a visible bit lands on a lit pixel, and the second time if a visible bit lands on a pixel that
was dark before the first one; otherwise it becomes 0, as it does for a sprite without rows. -/
theorem draw_twice (m : Machine) (x y n : Nibble) (hx : x ≠ flag) (hy : y ≠ flag) :
    ∃ (drawn : Machine) (hit again : Bool),
      m.execute (.ofDigits 0xD x y n) = .ok (2, drawn) ∧ drawn.reg flag = flagOf hit ∧
      drawn.execute (.ofDigits 0xD x y n) = .ok (2, m.setFlag (flagOf again)) ∧
      (hit = true ↔ ∃ i j, m.VisibleBit x y n.val i j ∧
        m.display.lit (m.startColumn x + i) (m.startRow y + j) = true) ∧
      (again = true ↔ ∃ i j, m.VisibleBit x y n.val i j ∧
        ¬m.display.lit (m.startColumn x + i) (m.startRow y + j) = true) ∧
      (n = 0 → hit = false ∧ again = false) := by
  let a := m.reg x
  let b := m.reg y
  let first := m.display.draw a.toNat b.toNat (m.spriteRows n.val)
  let second := first.2.draw a.toNat b.toNat (m.spriteRows n.val)
  have hexecute : (m.drawSprite a b n.val).execute (.ofDigits 0xD x y n) =
      .ok (2, m.setFlag (flagOf second.1)) := by
    rw [execute_draw, reg_drawSprite_of_ne m a b n.val hx, reg_drawSprite_of_ne m a b n.val hy,
      drawSprite_drawSprite]
  have hhit : first.1 = true ↔ ∃ i j, m.VisibleBit x y n.val i j ∧
      m.display.lit (m.startColumn x + i) (m.startRow y + j) = true := by
    rw [← m.exists_struck_iff x y n.val fun px py => m.display.lit px py = true]
    exact Grid.fst_draw (by decide) (by decide) m.display _ _ _
  have hagain : second.1 = true ↔ ∃ i j, m.VisibleBit x y n.val i j ∧
      ¬m.display.lit (m.startColumn x + i) (m.startRow y + j) = true := by
    rw [← m.exists_struck_iff x y n.val fun px py => ¬m.display.lit px py = true]
    exact Grid.fst_draw_again (by decide) (by decide) m.display _ _ _
  refine ⟨_, first.1, second.1, execute_draw m x y n, reg_flag_drawSprite m a b n.val, hexecute,
    hhit, hagain, ?_⟩
  rintro rfl
  have hnone (i j : Nat) : ¬m.VisibleBit x y 0 i j := fun hbit => Nat.not_lt_zero j hbit.2.1
  rw [← Bool.not_eq_true, ← Bool.not_eq_true, hhit, hagain]
  exact ⟨fun ⟨i, j, hbit, _⟩ => hnone i j hbit, fun ⟨i, j, hbit, _⟩ => hnone i j hbit⟩

/-- A sprite of two rows, read around the end of memory and drawn into the lower right corner: two bits of
its first row are visible, one of them on a lit pixel. Both drawings hit. -/
theorem draw_twice_cornered :
    let m : Machine :=
      { new .standard (.tape (fun _ => 0) 0) with
        memory := Memory.zero.writeAll 0xFFF [0xE0, 0xFF], i := 0xFFF
        v := Vector.ofFn fun r => if r = 0 then 254 else 63
        display := Grid.dark.flip 63 31 }
    ∃ drawn : Machine, m.execute (.ofDigits 0xD 0 1 2) = .ok (2, drawn) ∧ drawn.reg flag = 1 ∧
      drawn.execute (.ofDigits 0xD 0 1 2) = .ok (2, m.setFlag 1) := by
  intro m
  obtain ⟨drawn, hit, again, hfirst, hflag, hsecond, hhit, hagain, -⟩ :=
    draw_twice m 0 1 2 (by decide) (by decide)
  have hlit : m.VisibleBit 0 1 2 1 0 ∧
      m.display.lit (m.startColumn 0 + 1) (m.startRow 1 + 0) = true := by decide +kernel
  have hdark : m.VisibleBit 0 1 2 0 0 ∧
      ¬m.display.lit (m.startColumn 0 + 0) (m.startRow 1 + 0) = true := by decide +kernel
  rw [hhit.mpr ⟨1, 0, hlit⟩] at hflag
  rw [hagain.mpr ⟨0, 0, hdark⟩] at hsecond
  exact ⟨drawn, hfirst, hflag, hsecond⟩

/-- The top row of the glyph 0 on a screen that shows nothing but this row: the second drawing leaves 0 in
VF, although the sprite has visible bits. -/
theorem redrawn_without_hit :
    let m : Machine :=
      { new .standard (.tape (fun _ => 0) 0) with
        i := 0x50, display := (Grid.dark.draw 0 0 [0xF0]).2 }
    ∃ drawn again : Machine, m.execute (.ofDigits 0xD 0 0 1) = .ok (2, drawn) ∧
      drawn.execute (.ofDigits 0xD 0 0 1) = .ok (2, again) ∧
      ¬(again.reg flag = 1 ↔ ∃ i j, m.VisibleBit 0 0 1 i j) := by
  intro m
  refine ⟨_, _, execute_draw m 0 0 1, execute_draw _ 0 0 1, ?_⟩
  intro hclaim
  have hvisible : m.VisibleBit 0 0 1 0 0 := by decide +kernel
  have hmiss : ((m.drawSprite (m.reg 0) (m.reg 0) 1).drawSprite 0 0 1).reg flag = 0 := by
    decide +kernel
  have hflag := hclaim.mpr ⟨0, 0, hvisible⟩
  exact absurd (hmiss.symm.trans hflag) (by decide)

end Machine

end ChipEight
