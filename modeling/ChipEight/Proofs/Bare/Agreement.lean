import ChipEight.Proofs.Bare.Reading

/-!
# The bare machine carries out the same instructions

`run_carryOut`: on what comes out of a machine, every instruction of the bare machine either stops
with the fault of the machine, having changed nothing, or ends in what comes out of the machine
after the instruction. The writes that an instruction makes one after the other add up to
`Machine.effect`, and none of them misses its place or spills over.
-/

namespace ChipEight

/-! ## Arithmetic of bytes -/

theorem byteOfInt_add (a b : UInt8) : byteOfInt ((a.toNat : Int) + b.toNat) = a + b := by
  rw [byteOfInt_eq_iff, UInt8.toNat_add]
  omega

theorem byteOfInt_sub (a b : UInt8) : byteOfInt ((a.toNat : Int) - b.toNat) = a - b := by
  have ha := a.toNat_lt
  have hb := b.toNat_lt
  rw [byteOfInt_eq_iff, UInt8.toNat_sub]
  omega

theorem byteOfInt_half (a : UInt8) : byteOfInt ((a.toNat : Int) / 2) = a >>> 1 := by
  have ha := a.toNat_lt
  rw [byteOfInt_eq_iff, UInt8.toNat_shiftRight, Nat.shiftRight_eq_div_pow]
  simp
  omega

theorem byteOfInt_double (a : UInt8) : byteOfInt ((a.toNat : Int) * 2) = a <<< 1 := by
  rw [byteOfInt_eq_iff, UInt8.toNat_shiftLeft, Nat.shiftLeft_eq]
  simp

theorem toNat_lastBit (a : UInt8) : (a.toNat : Int) % 2 = ((a &&& 1).toNat : Int) := by
  rw [UInt8.toNat_and]
  simp [Nat.and_one_is_mod]

theorem toNat_firstBit (a : UInt8) : (a.toNat : Int) / (0x80 : Int) = ((a >>> 7).toNat : Int) := by
  rw [UInt8.toNat_shiftRight, Nat.shiftRight_eq_div_pow]
  simp

theorem byteOfInt_lor (a b : UInt8) : byteOfInt (Int.lor a.toNat b.toNat) = a ||| b := by
  have h : Int.lor a.toNat b.toNat = ((a ||| b).toNat : Int) := by
    rw [UInt8.toNat_or]
    rfl
  rw [h, byteOfInt_toNat]

theorem byteOfInt_xor (a b : UInt8) : byteOfInt (Int.xor a.toNat b.toNat) = a ^^^ b := by
  have h : Int.xor a.toNat b.toNat = ((a ^^^ b).toNat : Int) := by
    rw [UInt8.toNat_xor]
    rfl
  rw [h, byteOfInt_toNat]

/-- A mask of eight bits takes no notice of the higher bits of an integer, also of a negative
one. -/
theorem byteOfInt_land (n : Int) (b : UInt8) :
    byteOfInt (Int.land n b.toNat) = byteOfInt n &&& b := by
  have hb : b.toNat < 2 ^ 8 := b.toNat_lt
  have hn : (byteOfInt n).toNat = (n % 256).toNat := by
    have := toNat_byteOfInt n
    omega
  have hland : (byteOfInt (Int.land n b.toNat)).toNat = (Int.land n b.toNat % 256).toNat := by
    have := toNat_byteOfInt (Int.land n b.toNat)
    omega
  rw [← UInt8.toNat_inj, UInt8.toNat_and, hn, hland]
  cases n with
  | ofNat a =>
    show (((a &&& b.toNat : Nat) : Int) % 256).toNat = ((a : Int) % 256).toNat &&& b.toNat
    have h₁ : (((a &&& b.toNat : Nat) : Int) % 256).toNat = (a &&& b.toNat) % 2 ^ 8 := by omega
    have h₂ : ((a : Int) % 256).toNat = a % 2 ^ 8 := by omega
    rw [h₁, h₂, Nat.and_mod_two_pow, Nat.mod_eq_of_lt hb]
  | negSucc a =>
    show (((Nat.ldiff b.toNat a : Nat) : Int) % 256).toNat =
      (Int.negSucc a % 256).toNat &&& b.toNat
    have h₁ : (((Nat.ldiff b.toNat a : Nat) : Int) % 256).toNat =
        Nat.ldiff b.toNat a % 2 ^ 8 := by omega
    have h₂ : (Int.negSucc a % 256).toNat = 2 ^ 8 - (a % 2 ^ 8 + 1) := by omega
    have ha : a % 2 ^ 8 < 2 ^ 8 := Nat.mod_lt _ (by decide)
    rw [h₁, h₂]
    apply Nat.eq_of_testBit_eq
    intro i
    rw [Nat.testBit_mod_two_pow, Nat.testBit_ldiff, Nat.testBit_and,
      Nat.testBit_two_pow_sub_succ ha, Nat.testBit_mod_two_pow]
    by_cases hi : i < 8 <;> simp [hi, Bool.and_comm]

theorem toNat_beq (a b : UInt8) : ((a.toNat : Int) == (b.toNat : Int)) = (a == b) := by
  rw [Bool.eq_iff_iff, beq_iff_eq, beq_iff_eq, ← UInt8.toNat_inj]
  omega

theorem toNat_bne (a b : UInt8) : ((a.toNat : Int) != (b.toNat : Int)) = (a != b) := by
  rw [bne, bne, toNat_beq]

namespace BareMachine

variable (m : Machine) (d : Nat → Int) (w : Word)

@[simp]
theorem i_bare : (m.bare d).i = m.i.toNat := rfl

@[simp]
theorem pc_bare : (m.bare d).pc = m.pc.toNat := rfl

@[simp]
theorem delay_bare : (m.bare d).delay = m.delay.toNat := rfl

@[simp]
theorem toNat_skipIf (c : Bool) : ((Machine.skipIf c).toNat : Int) = skipIf c := by
  cases c <;> rfl

/-! ## Flow -/

theorem run_comeBack_of_empty (h : m.stack.depth.val = 0) :
    comeBack.run (m.bare d) = .error (.stackUnderflow m.pc.toNat) (m.bare d) := by
  simp [comeBack, run_pop_of_empty m d h]

theorem run_comeBack (h : m.stack.depth.val ≠ 0) :
    comeBack.run (m.bare d) = .ok 2 (m.leave.bare d) := by
  have hne : m.stack.pop? ≠ none := by simpa [CallStack.pop?_eq_none_iff] using h
  obtain ⟨⟨a, t⟩, hpop⟩ := Option.ne_none_iff_exists'.mp hne
  simp only [comeBack, EStateM.run_bind, run_pop_of_some m d hpop, run_setCounter,
    Word.ofInt_toNat, Machine.leave, hpop]
  rfl

theorem run_enter_of_full (h : m.stack.depth.val = 16) :
    (enter w).run (m.bare d) = .error (.stackOverflow m.pc.toNat) (m.bare d) := by
  simp [enter, run_push_of_full m d _ h]

theorem run_enter (h : m.stack.depth.val ≠ 16) :
    (enter w).run (m.bare d) = .ok 0 ((m.enter w.nnn).bare d) := by
  have hne : m.stack.push? m.pc ≠ none := by simpa [CallStack.push?_eq_none_iff] using h
  obtain ⟨t, hpush⟩ := Option.ne_none_iff_exists'.mp hne
  simp only [enter, EStateM.run_bind, EStateM.run_get, pc_bare, run_push_of_some m d hpush,
    run_setCounter, Word.ofInt_toNat, Machine.enter, hpush]
  rfl

theorem run_jumpOffset :
    (jumpOffset w).run (m.bare d) = .ok 0 ((m.effect .jumpOffset w).bare d) := by
  have hr : (if m.isOn .jumping then (w.x.val : Int) else 0) = (m.jumpRegister w).val := by
    unfold Machine.jumpRegister
    split <;> rfl
  have hpc : Word.ofInt (((m.reg (m.jumpRegister w)).toNat : Int) + w.nnn.toNat) =
      w.nnn + UInt16.ofNat (m.reg (m.jumpRegister w)).toNat := by
    rw [Word.ofInt_eq_iff, UInt16.toNat_add, UInt16.toNat_ofNat']
    omega
  simp only [jumpOffset, EStateM.run_bind, EStateM.run_get, isOn_bare, hr, run_register,
    run_setCounter, hpc]
  rfl

/-! ## Registers -/

theorem run_logic (f : Int → Int → Int) (g : UInt8 → UInt8 → UInt8)
    (hfg : ∀ a b : UInt8, byteOfInt (f a.toNat b.toNat) = g a b) :
    (logic w f).run (m.bare d) = .ok 2
      (((m.setReg w.x (g (m.reg w.x) (m.reg w.y))).clearFlagIf (m.isOn .vfReset)).bare d) := by
  simp only [logic, EStateM.run_bind, run_register, run_setRegister, hfg, EStateM.run_get,
    isOn_bare, Machine.clearFlagIf]
  have hon : (m.setReg w.x (g (m.reg w.x) (m.reg w.y))).isOn .vfReset = m.isOn .vfReset := rfl
  by_cases h : m.isOn .vfReset
  · simp [hon, h, run_setFlag _ d (show (0 : Int) = (0 : UInt8).toNat from rfl)]
  · simp [hon, h]

theorem run_addRegisters :
    (addRegisters w).run (m.bare d) = .ok 2 ((m.effect .add w).bare d) := by
  have hflag : decide ((0xFF : Int) < ((m.reg w.x).toNat : Int) + (m.reg w.y).toNat) =
      decide (0xFF < (m.reg w.x).toNat + (m.reg w.y).toNat) := by
    rw [decide_eq_decide]
    omega
  simp only [addRegisters, EStateM.run_bind, run_register, run_setRegister, byteOfInt_add, hflag,
    run_setFlag_flagNumber]
  rfl

theorem run_subtract (swapped : Bool) :
    (subtract w swapped).run (m.bare d) =
      .ok 2 ((m.effect (if swapped then .subFrom else .sub) w).bare d) := by
  have hle (a b : UInt8) : decide ((a.toNat : Int) ≤ b.toNat) = decide (a ≤ b) := by
    rw [decide_eq_decide, UInt8.le_iff_toNat_le]
    omega
  cases swapped with
  | false =>
    simp only [subtract, EStateM.run_bind, run_register, run_setRegister, byteOfInt_sub, hle,
      run_setFlag_flagNumber, Bool.false_eq_true, if_false]
    rfl
  | true =>
    simp only [subtract, EStateM.run_bind, run_register, run_setRegister, byteOfInt_sub, hle,
      run_setFlag_flagNumber, if_true]
    rfl

theorem run_shiftSource :
    (shiftSource w).run (m.bare d) = .ok ((m.shiftSource w).toNat : Int) (m.bare d) := by
  simp only [shiftSource, EStateM.run_bind, EStateM.run_get, isOn_bare, Machine.shiftSource]
  split <;> simp

theorem run_shiftRight :
    (shiftRight w).run (m.bare d) = .ok 2 ((m.effect .shiftRight w).bare d) := by
  simp only [shiftRight, EStateM.run_bind, run_shiftSource, run_setRegister, byteOfInt_half,
    run_setFlag _ d (toNat_lastBit _)]
  rfl

theorem run_shiftLeft :
    (shiftLeft w).run (m.bare d) = .ok 2 ((m.effect .shiftLeft w).bare d) := by
  simp only [shiftLeft, EStateM.run_bind, run_shiftSource, run_setRegister, byteOfInt_double]
  rw [run_setFlag _ d (toNat_firstBit _)]
  rfl

/-- Whatever integer the source gives, masking it leaves the byte that the machine draws. -/
theorem run_random (hd : m.random.Gives d) :
    (random w).run (m.bare d) = .ok 2 ((m.effect .random w).bare d) := by
  simp only [random, EStateM.run_bind, run_draw, run_setRegister, byteOfInt_land, ← hd.first]
  rfl

/-! ## Index register and memory -/

/-- An address a few cells behind `I` selects the same cell in either reading. -/
theorem cell_index_add (i : Word) (k : Nat) :
    ((i.toNat : Int) + (k : Int)) % 0x1000 = ((i + UInt16.ofNat k).toNat : Int) % 0x1000 := by
  rw [UInt16.toNat_add, UInt16.toNat_ofNat']
  omega

theorem index_add_zero (i : Word) : i + UInt16.ofNat 0 = i := UInt16.add_zero i

theorem index_add_succ (i : Word) (k : Nat) :
    i + UInt16.ofNat k + 1 = i + UInt16.ofNat (k + 1) := by
  rw [UInt16.add_assoc, ← UInt16.ofNat_one, UInt16.ofNat_add]

theorem run_addIndex :
    (addIndex w).run (m.bare d) = .ok 2 ((m.effect .addIndex w).bare d) := by
  let total := m.i.toNat + (m.reg w.x).toNat
  let moved : Machine := { m with i := UInt16.ofNat total }
  have hi : Word.ofInt ((m.i.toNat : Int) + (m.reg w.x).toNat) = UInt16.ofNat total := by
    rw [Word.ofInt_eq_iff, UInt16.toNat_ofNat']
    simp only [total]
    omega
  have htotal : (0xFFFF : Int) < (m.i.toNat : Int) + (m.reg w.x).toNat ↔ 0xFFFF < total := by
    simp only [total]
    omega
  have hon : moved.isOn .indexOverflow = m.isOn .indexOverflow := rfl
  have heffect : m.effect .addIndex w =
      if m.isOn .indexOverflow then moved.setFlag (Machine.flagOf (decide (0xFFFF < total)))
      else moved := rfl
  simp only [addIndex, EStateM.run_bind, EStateM.run_get, i_bare, run_register, run_setIndex, hi,
    htotal, heffect]
  by_cases h : m.isOn .indexOverflow
  · simp [moved, hon, h, run_setFlag_flagNumber]
  · simp [moved, hon, h]

theorem run_storeDecimal :
    (storeDecimal w).run (m.bare d) = .ok 2 ((m.effect .decimal w).bare d) := by
  let v := m.reg w.x
  have hlt := v.toNat_lt
  have hhundreds : byteOfInt ((v.toNat : Int) / 100) = v / 100 := by
    rw [byteOfInt_eq_iff, UInt8.toNat_div]
    simp
    omega
  have htens : byteOfInt ((v.toNat : Int) / 10 % 10) = v / 10 % 10 := by
    rw [byteOfInt_eq_iff, UInt8.toNat_mod, UInt8.toNat_div]
    simp
    omega
  have hones : byteOfInt ((v.toNat : Int) % 10) = v % 10 := by
    rw [byteOfInt_eq_iff, UInt8.toNat_mod]
    simp
    omega
  have h₁ : ((m.i.toNat : Int) + 1) % 0x1000 = ((m.i + 1).toNat : Int) % 0x1000 :=
    cell_index_add m.i 1
  have h₂ : ((m.i.toNat : Int) + 2) % 0x1000 = ((m.i + 1 + 1).toNat : Int) % 0x1000 := by
    rw [show m.i + 1 + 1 = m.i + UInt16.ofNat 2 from index_add_succ m.i 1]
    exact cell_index_add m.i 2
  simp only [storeDecimal, EStateM.run_bind, run_register, EStateM.run_get, i_bare,
    run_writeCell m d (n := m.i.toNat) (a := m.i) rfl, run_writeCell _ d h₁, run_writeCell _ d h₂]
  simp only [v] at hhundreds htens hones
  rw [hhundreds, htens, hones]
  rfl

theorem run_moveIndex :
    (moveIndex w).run (m.bare d) = .ok () ((m.moveIndexIf (m.isOn .memory) w.x).bare d) := by
  have hi : Word.ofInt ((m.i.toNat : Int) + (w.x.val : Int) + 1) =
      m.i + UInt16.ofNat w.x.val + 1 := by
    rw [Word.ofInt_eq_iff, UInt16.toNat_add, UInt16.toNat_add, UInt16.toNat_ofNat',
      UInt16.toNat_one]
    omega
  by_cases h : m.isOn .memory
  · simp [moveIndex, Machine.moveIndexIf, h, hi]
  · simp [moveIndex, Machine.moveIndexIf, h]

theorem run_storeRegister (r : Register) :
    (storeRegister r.val).run (m.bare d) =
      .ok () ({ m with memory := m.memory.write (m.i + UInt16.ofNat r.val) (m.reg r) }.bare d) := by
  simp only [storeRegister, EStateM.run_bind, EStateM.run_get, i_bare, run_register,
    run_writeCell m d (cell_index_add m.i r.val), byteOfInt_toNat]

theorem run_loadRegister (r : Register) :
    (loadRegister r.val).run (m.bare d) =
      .ok () ((m.setReg r (m.memory.read (m.i + UInt16.ofNat r.val))).bare d) := by
  simp only [loadRegister, EStateM.run_bind, EStateM.run_get, i_bare,
    run_readCell m d (cell_index_add m.i r.val), run_setRegister, byteOfInt_toNat]

/-- Storing registers one after the other. -/
theorem run_forM_storeRegister (n k : Nat) (h : k + n ≤ 16) (memory : Memory) :
    (forM (List.range' k n) storeRegister).run ({ m with memory }.bare d) =
      .ok () ({ m with
        memory := memory.writeAll (m.i + UInt16.ofNat k)
          ((m.v.toList.drop k).take n) }.bare d) := by
  induction n generalizing k memory with
  | zero => simp [Memory.writeAll]
  | succ n ih =>
    let r : Register := ⟨k, by omega⟩
    have hk : k < m.v.toList.length := by
      rw [Vector.length_toList]
      omega
    have hr : m.v.toList[k] = m.reg r := by simp [Machine.reg, Vector.get, r]
    rw [List.range'_succ, List.forM_cons, EStateM.run_bind, run_storeRegister { m with memory } d r]
    simp only
    rw [ih (k + 1) (by omega), List.drop_eq_getElem_cons hk, List.take_succ_cons, Memory.writeAll,
      hr, index_add_succ]
    rfl

theorem run_storeRegisters :
    (storeRegisters w).run (m.bare d) = .ok 2 ((m.effect .store w).bare d) := by
  have h := run_forM_storeRegister m d (w.x.val + 1) 0 (by have := w.x.val_lt; omega) m.memory
  rw [List.drop_zero, index_add_zero] at h
  simp only [storeRegisters, EStateM.run_bind, List.range_eq_range', h, run_moveIndex]
  rfl

/-- A machine that has read its first `n` registers from memory. -/
def loaded (n : Nat) : Machine :=
  { m with
    v := m.v.mapFinIdx fun k b _ => if k < n then m.memory.read (m.i + UInt16.ofNat k) else b }

theorem loaded_succ (r : Register) :
    (loaded m r.val).setReg r (m.memory.read (m.i + UInt16.ofNat r.val)) =
      loaded m (r.val + 1) := by
  unfold loaded Machine.setReg
  congr 1
  apply Vector.ext
  intro k hk
  simp only [Vector.getElem_set, Vector.getElem_mapFinIdx]
  grind

/-- Reading registers one after the other. -/
theorem run_forM_loadRegister (n : Nat) (h : n ≤ 16) :
    (forM (List.range n) loadRegister).run (m.bare d) = .ok () ((loaded m n).bare d) := by
  induction n with
  | zero =>
    have hv : (m.v.mapFinIdx fun k b _ =>
        if k < 0 then m.memory.read (m.i + UInt16.ofNat k) else b) = m.v := by
      apply Vector.ext
      intro k hk
      simp
    simp only [loaded, hv]
    rfl
  | succ n ih =>
    let r : Register := ⟨n, by omega⟩
    rw [List.range_succ, List.forM_append, EStateM.run_bind, ih (by omega)]
    simp only [List.forM_cons, List.forM_nil, EStateM.run_bind]
    rw [run_loadRegister (loaded m n) d r]
    rw [← loaded_succ m r]
    rfl

theorem run_loadRegisters :
    (loadRegisters w).run (m.bare d) = .ok 2 ((m.effect .load w).bare d) := by
  have h := run_forM_loadRegister m d (w.x.val + 1) (by have := w.x.val_lt; omega)
  have hloaded : loaded m (w.x.val + 1) = m.loadRegisters w.x := by
    simp only [loaded, Machine.loadRegisters, Nat.lt_succ_iff]
  simp only [loadRegisters, EStateM.run_bind, h, hloaded, run_moveIndex]
  rfl

theorem run_readRows (n k : Nat) :
    (readRows k n).run (m.bare d) =
      .ok ((m.memory.readAll (m.i + UInt16.ofNat k) n).map fun b => (b.toNat : Int))
        (m.bare d) := by
  induction n generalizing k with
  | zero => rfl
  | succ n ih =>
    simp only [readRows, EStateM.run_bind, EStateM.run_get, i_bare,
      run_readCell m d (cell_index_add m.i k), ih (k + 1), Memory.readAll, index_add_succ]
    rfl

theorem run_drawSprite :
    (drawSprite w).run (m.bare d) = .ok 2 ((m.effect .draw w).bare d) := by
  let rows := (m.memory.readAll m.i w.n.val).map fun b => (b.toNat : Int)
  have hrows : (readRows 0 w.n.val).run (m.bare d) = .ok rows (m.bare d) := by
    rw [run_readRows, index_add_zero]
  have hx : ((m.reg w.x).toNat : Int) % (Layout.displayWidth : Int) =
      (Grid.wrap (m.reg w.x).toNat Layout.displayWidth : Nat) := by
    simp only [Grid.wrap, Layout.displayWidth]
    omega
  have hy : ((m.reg w.y).toNat : Int) % (Layout.displayHeight : Int) =
      (Grid.wrap (m.reg w.y).toNat Layout.displayHeight : Nat) := by
    simp only [Grid.wrap, Layout.displayHeight]
    omega
  simp only [drawSprite, EStateM.run_bind, hrows, run_register, hx, hy, run_drawRows,
    Grid.scanRows_eq_plot, Bool.false_or, run_setFlag_flagNumber]
  rfl

/-! ## Keys and timers -/

theorem run_awaitKey :
    (awaitKey w).run (m.bare d) =
      .ok (m.advance .awaitKey w).toNat ((m.effect .awaitKey w).bare d) := by
  simp only [awaitKey, EStateM.run_bind, EStateM.run_get, firstPressed_bare, Machine.advance,
    Machine.effect, Machine.takeKey]
  cases h : m.keypad.first? with
  | none => rfl
  | some k =>
    have hk : byteOfInt (k.val : Int) = UInt8.ofNat k.val := by
      have := k.isLt
      rw [byteOfInt_eq_iff, UInt8.toNat_ofNat']
      omega
    simp only [Option.map_some, EStateM.run_bind, run_setRegister, hk]
    rfl

theorem run_setDelay :
    (setDelay w).run (m.bare d) = .ok 2 ((m.effect .setDelay w).bare d) := by
  simp only [setDelay, EStateM.run_bind, run_register]
  rfl

theorem run_setSound :
    (setSound w).run (m.bare d) = .ok 2 ((m.effect .setSound w).bare d) := by
  simp only [setSound, EStateM.run_bind, run_register]
  rfl

/-! ## All instructions -/

theorem darkened_rows (g : Screen) :
    darkened (g.rows.toList.map fun row => row.toList) =
      (Grid.dark : Screen).rows.toList.map fun row => row.toList := by
  apply List.ext_getElem
  · simp [darkened]
  · intro y h₁ h₂
    apply List.ext_getElem <;> simp [darkened, Grid.dark]

theorem run_clear : (carryOut .clear w).run (m.bare d) = .ok 2 ((m.effect .clear w).bare d) := by
  have h : darkened (m.bare d).pixels = _ := darkened_rows m.display
  simp only [carryOut, EStateM.run_bind, EStateM.run_modify, h]
  rfl

/-- Every instruction has the fault, the distance and the effect that the machine gives it. -/
theorem run_carryOut (hd : m.random.Gives d) (op : Op) :
    (carryOut op w).run (m.bare d) =
      match m.faultOf? op w with
      | some fault => .error fault.stop (m.bare d)
      | none => .ok (m.advance op w).toNat ((m.effect op w).bare d) := by
  cases op with
  | unknown => rfl
  | ret =>
    by_cases h : m.stack.depth.val = 0
    · rw [carryOut, run_comeBack_of_empty m d h, Machine.faultOf?, if_pos h]
      rfl
    · rw [carryOut, run_comeBack m d h, Machine.faultOf?, if_neg h]
      rfl
  | call =>
    by_cases h : m.stack.depth.val = 16
    · rw [carryOut, run_enter_of_full m d w h, Machine.faultOf?, if_pos h]
      rfl
    · rw [carryOut, run_enter m d w h, Machine.faultOf?, if_neg h]
      rfl
  | jumpOffset => exact run_jumpOffset m d w
  | or => exact run_logic m d w _ _ byteOfInt_lor
  | and =>
    refine run_logic m d w _ _ fun a b => ?_
    rw [byteOfInt_land, byteOfInt_toNat]
  | xor => exact run_logic m d w _ _ byteOfInt_xor
  | add => exact run_addRegisters m d w
  | sub => exact run_subtract m d w false
  | subFrom => exact run_subtract m d w true
  | shiftRight => exact run_shiftRight m d w
  | shiftLeft => exact run_shiftLeft m d w
  | random => exact run_random m d w hd
  | addIndex => exact run_addIndex m d w
  | decimal => exact run_storeDecimal m d w
  | store => exact run_storeRegisters m d w
  | load => exact run_loadRegisters m d w
  | draw => exact run_drawSprite m d w
  | awaitKey => exact run_awaitKey m d w
  | setDelay => exact run_setDelay m d w
  | setSound => exact run_setSound m d w
  | clear => exact run_clear m d w
  | skipEqByte | skipNeByte | skipEqReg | skipNeReg | skipKey | skipNoKey =>
    simp [carryOut, Machine.faultOf?, Machine.effect, Machine.advance, toNat_beq, toNat_bne]
  | jump | loadByte | addByte | move | loadIndex | glyph | readDelay =>
    simp [carryOut, Machine.faultOf?, Machine.effect, Machine.advance, Machine.step,
      byteOfInt_add]

end BareMachine

end ChipEight
