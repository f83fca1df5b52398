import ChipEight.Proofs.Bare.Execution

/-!
# Machines stay well formed

The types of `Machine` leave no room for an ill-formed machine. Here is what that is worth: the bare
machine, whose types promise nothing, is well formed at power-on and after everything that a host or
a program can do to it, and no access that it makes to its lists misses.

A well-formed bare machine is one that comes out of a machine (`wellFormed_iff`), so that the
agreement of the two carries the invariant over.
-/

namespace ChipEight

namespace BareMachine

variable (m : Machine) (d : Nat → Int)

theorem isByte_toNat (b : UInt8) : IsByte b.toNat := by
  have := b.toNat_lt
  constructor <;> omega

theorem isWord_toNat (w : Word) : IsWord w.toNat := by
  have := w.toNat_lt
  constructor <;> omega

theorem wellFormed_bare : (m.bare d).WellFormed where
  length_v := by simp [Machine.bare]
  isByte_v b hb := by
    obtain ⟨x, -, rfl⟩ := List.mem_map.mp hb
    exact isByte_toNat x
  isWord_i := isWord_toNat m.i
  isWord_pc := isWord_toNat m.pc
  sp_mem := by
    have := m.stack.depth.isLt
    show 0 ≤ (m.stack.depth.val : Int) ∧ (m.stack.depth.val : Int) ≤ 16
    omega
  isByte_delay := isByte_toNat m.delay
  isByte_sound := isByte_toNat m.sound
  length_stack := by simp [Machine.bare]
  isWord_stack a ha := by
    obtain ⟨x, -, rfl⟩ := List.mem_map.mp ha
    exact isWord_toNat x
  length_memory := by simp [Machine.bare]
  isByte_memory b hb := by
    obtain ⟨x, -, rfl⟩ := List.mem_map.mp hb
    exact isByte_toNat x
  length_pixels := by simp [Machine.bare, Layout.displayHeight]
  length_row row hrow := by
    obtain ⟨x, -, rfl⟩ := List.mem_map.mp hrow
    exact x.length_toList
  length_keys := by simp [Machine.bare]
  one_le_cyclesPerTick := by
    have := m.settings.one_le_cycles
    show (1 : Int) ≤ (m.settings.cycles : Int)
    omega

/-! ## Back to types -/

/-- The machine of a bare machine: every number is cut to its place, and a place that is missing is
filled up. -/
def machine (s : BareMachine) : Machine where
  memory := ⟨Vector.ofFn fun k => byteOfInt (s.memory.getD k.val 0)⟩
  v := Vector.ofFn fun k => byteOfInt (s.v.getD k.val 0)
  i := Word.ofInt s.i
  pc := Word.ofInt s.pc
  stack := {
    slots := Vector.ofFn fun k => Word.ofInt (s.stack.getD k.val 0)
    depth := ⟨s.sp.toNat % 17, Nat.mod_lt _ (Nat.succ_pos 16)⟩ }
  delay := byteOfInt s.delay
  sound := byteOfInt s.sound
  display := ⟨Vector.ofFn fun y => Vector.ofFn fun x => (s.pixels.getD y.val []).getD x.val false⟩
  keypad := ⟨Vector.ofFn fun k => s.keys.getD k.val false⟩
  blocked := s.blocked
  random := .tape (fun k => byteOfInt (s.draws k)) s.drawn
  settings := {
    vfReset := s.switch .vfReset
    memory := s.switch .memory
    shifting := s.switch .shifting
    jumping := s.switch .jumping
    indexOverflow := s.switch .indexOverflow
    cycles := max 1 s.cyclesPerTick.toNat
    one_le_cycles := Nat.le_max_left .. }
  cycles := s.cycles
  ticks := s.ticks

theorem toNat_byteOfInt_of_isByte {n : Int} (h : IsByte n) : ((byteOfInt n).toNat : Int) = n := by
  obtain ⟨h₁, h₂⟩ := h
  rw [toNat_byteOfInt]
  omega

theorem toNat_ofInt_of_isWord {n : Int} (h : IsWord n) : ((Word.ofInt n).toNat : Int) = n := by
  obtain ⟨h₁, h₂⟩ := h
  rw [Word.toNat_ofInt]
  omega

/-- A list of the right length is the list of a vector that is filled from it, if what is done to
the entries can be undone. -/
theorem map_ofFn_getD {α β : Type} {n : Nat} {xs : List α} (hn : xs.length = n) (x₀ : α)
    (f : α → β) (g : β → α) (hgf : ∀ x ∈ xs, g (f x) = x) :
    (Vector.ofFn fun k : Fin n => f (xs.getD k.val x₀)).toList.map g = xs := by
  apply List.ext_getElem
  · simp [hn]
  · intro i h₁ h₂
    simp [List.getElem?_eq_getElem h₂, hgf xs[i] (List.getElem_mem h₂)]

theorem bare_machine {s : BareMachine} (h : s.WellFormed) : s.machine.bare s.draws = s := by
  have hmemory := map_ofFn_getD h.length_memory 0 byteOfInt (fun b => (b.toNat : Int))
    fun b hb => toNat_byteOfInt_of_isByte (h.isByte_memory b hb)
  have hv := map_ofFn_getD h.length_v 0 byteOfInt (fun b => (b.toNat : Int))
    fun b hb => toNat_byteOfInt_of_isByte (h.isByte_v b hb)
  have hstack := map_ofFn_getD h.length_stack 0 Word.ofInt (fun a => (a.toNat : Int))
    fun a ha => toNat_ofInt_of_isWord (h.isWord_stack a ha)
  have hkeys := map_ofFn_getD h.length_keys false id id fun _ _ => rfl
  have hrow (row : List Bool) (hmem : row ∈ s.pixels) :
      (Vector.ofFn fun x : Fin Layout.displayWidth => row.getD x.val false).toList = row := by
    have hlen : row.length = Layout.displayWidth := h.length_row row hmem
    simpa using map_ofFn_getD hlen false id id fun _ _ => rfl
  have hpixels := map_ofFn_getD (n := Layout.displayHeight) h.length_pixels [] _ _ hrow
  have hsp : ((s.sp.toNat % 17 : Nat) : Int) = s.sp := by
    obtain ⟨h₁, h₂⟩ := h.sp_mem
    omega
  have hcycles : ((max 1 s.cyclesPerTick.toNat : Nat) : Int) = s.cyclesPerTick := by
    have := h.one_le_cyclesPerTick
    omega
  have hswitch : s.machine.settings.get = s.switch := by
    funext q
    cases q <;> rfl
  have hi := toNat_ofInt_of_isWord h.isWord_i
  have hpc := toNat_ofInt_of_isWord h.isWord_pc
  have hdelay := toNat_byteOfInt_of_isByte h.isByte_delay
  have hsound := toNat_byteOfInt_of_isByte h.isByte_sound
  simp only [List.map_id, id] at hkeys
  unfold Machine.bare
  rw [hswitch]
  simp only [machine, hmemory, hv, hstack, hkeys, hpixels, hsp, hcycles, hi, hpc, hdelay, hsound]
  rfl

/-- A well-formed bare machine is one that comes out of a machine. -/
theorem wellFormed_iff (s : BareMachine) :
    s.WellFormed ↔ ∃ m : Machine, m.random.Gives s.draws ∧ m.bare s.draws = s := by
  constructor
  · intro h
    exact ⟨s.machine, RandomSource.gives_tape s.draws s.drawn, bare_machine h⟩
  · rintro ⟨m, -, h⟩
    rw [← h]
    exact wellFormed_bare m s.draws

/-! ## The invariant -/

theorem wellFormed_new (switch : Switch → Json) (n : Int) (d : Nat → Int) :
    (new switch n d).WellFormed where
  length_v := List.length_replicate
  isByte_v b hb := by
    rw [List.eq_of_mem_replicate hb]
    exact isByte_toNat 0
  isWord_i := isWord_toNat 0
  isWord_pc := isWord_toNat (UInt16.ofNat Layout.programStart)
  sp_mem := by
    show 0 ≤ (0 : Int) ∧ (0 : Int) ≤ 16
    omega
  isByte_delay := isByte_toNat 0
  isByte_sound := isByte_toNat 0
  length_stack := List.length_replicate
  isWord_stack a ha := by
    rw [List.eq_of_mem_replicate ha]
    exact isWord_toNat 0
  length_memory := by
    show freshMemory.length = 4096
    rw [← memory_initial, List.length_map, Vector.length_toList]
  isByte_memory b hb := by
    have hb' : b ∈ freshMemory := hb
    rw [← memory_initial] at hb'
    obtain ⟨x, -, rfl⟩ := List.mem_map.mp hb'
    exact isByte_toNat x
  length_pixels := List.length_replicate
  length_row row hrow := by
    rw [List.eq_of_mem_replicate hrow]
    exact List.length_replicate
  length_keys := List.length_replicate
  one_le_cyclesPerTick := le_max_left 1 n

theorem left_answer (d : Nat → Int) (r : Except Refusal Reply × Machine) :
    left (Machine.answer d r) = r.2.bare d := by
  obtain ⟨_ | _, m⟩ := r <;> rfl

theorem wellFormed_left {s : BareMachine} (h : s.WellFormed) (fs : Files) (op : Operation) :
    (left ((apply fs op).run s)).WellFormed := by
  obtain ⟨m, hd, hm⟩ := (wellFormed_iff s).mp h
  rw [← hm, run_apply m fs hd op, left_answer]
  exact wellFormed_bare _ _

theorem isFault_stop (f : Fault) : f.stop.IsFault := by
  cases f <;> trivial

theorem isFault_of_answer_reply {d : Nat → Int} {o : Machine.Outcome} {r : Reply} {e : Stop}
    {s : BareMachine} (h : Machine.answer d (o.reply r) = .error e s) : e.IsFault := by
  rw [Machine.Outcome.reply] at h
  split at h
  · cases h
  · cases h
    exact isFault_stop _

/-- A program is stopped by its own faults only. -/
theorem isFault_of_executes {s : BareMachine} (h : s.WellFormed) (fs : Files) {op : Operation}
    (hop : op.executes) {e : Stop} {s' : BareMachine} (he : (apply fs op).run s = .error e s') :
    e.IsFault := by
  obtain ⟨m, hd, hm⟩ := (wellFormed_iff s).mp h
  rw [← hm, run_apply m fs hd op] at he
  cases op with
  | cycle | tick | run => exact isFault_of_answer_reply he
  | _ => cases hop

/-- A machine is well formed at power-on, whatever its settings, and after every operation, whether
it succeeds or not. An operation that runs the program is stopped by nothing but the program's own
faults: no access to memory, registers, stack, keys or pixels ever misses, whatever integers the
random source gives. All this is about the machine itself, since its operations are those of the
bare machine. -/
theorem stays_wellFormed :
    (∀ (switch : Switch → Json) (n : Int) (d : Nat → Int), (new switch n d).WellFormed) ∧
    (∀ (s : BareMachine) (fs : Files) (op : Operation), s.WellFormed →
      (left ((apply fs op).run s)).WellFormed) ∧
    (∀ (s : BareMachine) (fs : Files) (op : Operation) (e : Stop) (s' : BareMachine),
      s.WellFormed → op.executes → (apply fs op).run s = .error e s' → e.IsFault) ∧
    (∀ (m : Machine) (fs : Files) (op : Operation) (d : Nat → Int), m.random.Gives d →
      (apply fs op).run (m.bare d) = Machine.answer d (m.apply fs op)) :=
  ⟨wellFormed_new, fun _ fs op h => wellFormed_left h fs op,
    fun _ fs _ _ _ h hop he => isFault_of_executes h fs hop he,
    fun m fs op _ hd => run_apply m fs hd op⟩

/-- A bare machine whose program is a return that has nowhere to go. -/
def strayReturn : BareMachine :=
  left ((load [0x00, 0xEE]).run (new (fun _ => .bool false) 0 fun _ => -1))

set_option maxRecDepth 100000 in
theorem run_tick_strayReturn (fs : Files) :
    (apply fs .tick).run strayReturn = .error (.stackUnderflow 0x200) strayReturn := rfl

theorem stays_wellFormed_strayReturn :
    strayReturn.WellFormed ∧ (Stop.stackUnderflow 0x200).IsFault :=
  let fs : Files := ⟨fun _ => .missing, fun _ => none⟩
  have h : strayReturn.WellFormed :=
    stays_wellFormed.2.1 _ fs (.load [0x00, 0xEE])
      (stays_wellFormed.1 (fun _ => .bool false) 0 fun _ => -1)
  ⟨h, stays_wellFormed.2.2.1 strayReturn fs .tick _ strayReturn h rfl (run_tick_strayReturn fs)⟩

end BareMachine

end ChipEight
