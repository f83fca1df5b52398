import ChipEight.Proofs.History
import ChipEight.Proofs.Waiting

/-!
# The mark that the program waits

A machine is marked as blocked by one instruction alone, the one that awaits a key, and that
instruction stays where it is. So the mark tells the truth about the last cycle, in whatever way the
machine came to it: that cycle awaited a key in vain, and the next one will await it again
(`keptNoted_awaitedLast`). From then on nothing else happens until a key is seen
(`blocked_awaits_key`).

A host could still put another program under a machine that waits, so it is asked to load only while
the machine does not.
-/

namespace ChipEight

namespace Machine

variable {m : Machine} {past : List Machine}

/-! ## One cycle -/

theorem blocked_cycle_of_ne (hop : m.currentOp ≠ .awaitKey) : m.cycle.blocked = m.blocked :=
  same_effect m m.fetch (p := .blocked) hop

theorem blocked_cycle_of_awaitKey (hop : m.currentOp = .awaitKey) :
    m.cycle.blocked = true ↔ m.keypad.pressed = [] := by
  constructor
  · intro hblocked
    have hdecode : decode m.fetch = .awaitKey := hop
    cases hfirst : m.keypad.first? with
    | some a =>
      simp only [cycle, hdecode, effect, takeKey, hfirst, finish] at hblocked
      cases hblocked
    | none =>
      rw [Keypad.first?_eq_head?] at hfirst
      exact List.head?_eq_none_iff.mp hfirst
  · intro hkeys
    have hwaits : m.Waits := ⟨hop, Keypad.first?_eq_none hkeys⟩
    rw [hwaits.cycle]
    rfl

/-! ## What the mark says about the past -/

/-- The last of the cycles awaited a key in vain, at the address and with the word that the machine
is at now. -/
def AwaitedLast (m : Machine) (past : List Machine) : Prop :=
  ∃ earlier last, past = earlier ++ [last] ∧ last.currentOp = .awaitKey ∧
    last.keypad.pressed = [] ∧ last.pc = m.pc ∧ last.fetch = m.fetch

theorem AwaitedLast.currentOp_eq (h : AwaitedLast m past) : m.currentOp = .awaitKey := by
  obtain ⟨earlier, last, -, hop, -, -, hfetch⟩ := h
  rw [currentOp, ← hfetch]
  exact hop

theorem keptNoted_awaitedLast :
    KeptNoted fun m past => m.blocked = true → AwaitedLast m past where
  cycle := by
    intro m past h _ hblocked
    by_cases hop : m.currentOp = .awaitKey
    · have hkeys := (blocked_cycle_of_awaitKey hop).mp hblocked
      have hwaits : m.Waits := ⟨hop, Keypad.first?_eq_none hkeys⟩
      rw [hwaits.cycle]
      exact ⟨past, m, rfl, hop, hkeys, rfl, rfl⟩
    · -- The mark was there before, and the instruction was not the one that it tells of.
      rw [blocked_cycle_of_ne hop] at hblocked
      exact absurd (h hblocked).currentOp_eq hop
  timerStep := by
    intro m past h hblocked
    exact h hblocked

/-- The host loads only while the program does not wait for a key. -/
def LoadsWhenFree (m : Machine) (op : Operation) : Prop := op.loads → m.blocked = false

/-- What the host does to a machine that waits leaves the mark and the instruction alone, unless it
resets the machine. -/
theorem apply_of_blocked (fs : Files) {op : Operation} (hop : op.executes = false)
    (hfree : LoadsWhenFree m op) (hreset : op ≠ .reset) (hblocked : m.blocked = true) :
    ∃ keypad settings, (m.apply fs op).2 = { m with keypad, settings } := by
  have hhands : op.isHandsOff := by
    cases op with
    | load | loadFile => exact absurd (hfree rfl) (by simp [hblocked])
    | reset => exact absurd rfl hreset
    | _ => rfl
  obtain ⟨memory, keypad, settings, hm, hmemory⟩ := apply_of_host fs m hop hreset
  rw [hm, hmemory hhands]
  exact ⟨keypad, settings, rfl⟩

theorem awaitedLast_of_host (fs : Files) {op : Operation} (hop : op.executes = false)
    (hfree : LoadsWhenFree m op) (h : m.blocked = true → AwaitedLast m past) :
    (m.apply fs op).2.blocked = true → AwaitedLast (m.apply fs op).2 past := by
  intro hblocked
  by_cases hreset : op = .reset
  · rw [hreset] at hblocked
    cases hblocked
  · have hbefore : m.blocked = true := by
      obtain ⟨memory, keypad, settings, hm, -⟩ := apply_of_host fs m hop hreset
      rw [hm] at hblocked
      exact hblocked
    obtain ⟨keypad, settings, hm⟩ := apply_of_blocked fs hop hfree hreset hbefore
    rw [hm]
    exact h hbefore

/-! ## What the mark says about the future -/

/-- A machine that still waits where another one waits. -/
structure StillWaits (m x : Machine) : Prop where
  blocked : x.blocked = true
  pc : x.pc = m.pc
  fetch : x.fetch = m.fetch

theorem StillWaits.currentOp_eq {x : Machine} (h : StillWaits m x) : x.currentOp = m.currentOp := by
  rw [currentOp, h.fetch, currentOp]

theorem keptNoted_stillWaits (hop : m.currentOp = .awaitKey) :
    KeptNoted fun x past => (∀ y ∈ past, y.keypad.pressed = []) → StillWaits m x where
  cycle := by
    intro x past h _ hkeys
    have hx : StillWaits m x := h fun y hy => hkeys y (List.mem_append_left _ hy)
    have hnone : x.keypad.pressed = [] :=
      hkeys x (List.mem_append_right _ (List.mem_singleton.mpr rfl))
    have hwaits : x.Waits := ⟨hx.currentOp_eq.trans hop, Keypad.first?_eq_none hnone⟩
    rw [hwaits.cycle]
    exact ⟨rfl, hx.pc, hx.fetch⟩
  timerStep := by
    intro x past h hkeys
    obtain ⟨hblocked, hpc, hfetch⟩ := h hkeys
    exact ⟨hblocked, hpc, hfetch⟩

theorem stillWaits_of_host (fs : Files) {x : Machine} {op : Operation} (hop : op.executes = false)
    (hfree : LoadsWhenFree x op) (hreset : op ≠ .reset) (h : StillWaits m x) :
    StillWaits m (x.apply fs op).2 := by
  obtain ⟨keypad, settings, hx⟩ := apply_of_blocked fs hop hfree hreset h.blocked
  rw [hx]
  exact ⟨h.blocked, h.pc, h.fetch⟩

/-! ## The whole run -/

/-- Start at power-on and let the host do what it likes, as long as it loads only while the program
does not wait. Whenever the machine is marked as blocked, be it before a cycle or at the end, the
last cycle awaited a key in vain, and `PC` is still at that same instruction; so no other instruction
is ever carried out under the mark. And whatever the host does then, short of a reset: until a cycle
has seen a pressed key, the machine stays marked and every cycle is one of that same instruction,
which takes the mark away exactly if it sees a key. -/
theorem blocked_awaits_key (fs : Files) (settings : Settings) (random : RandomSource)
    (ops : List Operation) (hops : Admits fs LoadsWhenFree (new settings random) ops) :
    let start := new settings random
    let m := start.applyAll fs ops
    (∀ past x after, history fs start ops = past ++ x :: after → x.blocked = true →
      x.currentOp = .awaitKey ∧ AwaitedLast x past) ∧
    (m.blocked = true →
      m.currentOp = .awaitKey ∧ AwaitedLast m (history fs start ops) ∧
      ∀ later, Admits fs (fun x op => LoadsWhenFree x op ∧ op ≠ .reset) m later →
        ((∀ x ∈ history fs m later, x.keypad.pressed = []) →
          StillWaits m (m.applyAll fs later)) ∧
        ∀ before x after, history fs m later = before ++ x :: after →
          (∀ y ∈ before, y.keypad.pressed = []) →
            StillWaits m x ∧ x.currentOp = .awaitKey ∧
            (x.cycle.blocked = true ↔ x.keypad.pressed = [])) := by
  intro start m
  obtain ⟨hend, hpast⟩ := keptNoted_awaitedLast.history fs
    (fun x ms op hexec hfree h => awaitedLast_of_host fs hexec hfree h) hops nofun
  refine ⟨?_, ?_⟩
  · intro past x after hsplit hblocked
    have hlast := hpast past x after hsplit hblocked
    exact ⟨hlast.currentOp_eq, hlast⟩
  · intro hblocked
    have hlast : AwaitedLast m (history fs start ops) := hend hblocked
    have hop : m.currentOp = .awaitKey := hlast.currentOp_eq
    refine ⟨hop, hlast, ?_⟩
    intro later hlater
    obtain ⟨hstill, hbefore⟩ := (keptNoted_stillWaits hop).history fs
      (fun x ms op hexec hop h hkeys => stillWaits_of_host fs hexec hop.1 hop.2 (h hkeys)) hlater
      (fun _ => ⟨hblocked, rfl, rfl⟩)
    refine ⟨hstill, ?_⟩
    intro before x after hsplit hkeys
    have hx : StillWaits m x := hbefore before x after hsplit hkeys
    have hxop : x.currentOp = .awaitKey := hx.currentOp_eq.trans hop
    exact ⟨hx, hxop, blocked_cycle_of_awaitKey hxop⟩

/-- A program that awaits a key is loaded and starts to wait; a key that does not exist and a switch
change nothing about that, nor does one more cycle. -/
theorem blocked_awaits_key_loaded :
    let fs : Files := ⟨fun _ => .missing, fun _ => none⟩
    let m := (new .standard (.tape (fun _ => 0) 0)).applyAll fs
      [.load [0xF4, 0x0A], .cycle, .press (.number (.int 16)), .toggle "j"]
    m.currentOp = .awaitKey ∧ StillWaits m (m.applyAll fs [.cycle]) := by
  intro fs m
  obtain ⟨-, hwait⟩ := blocked_awaits_key fs .standard (.tape (fun _ => 0) 0)
    [.load [0xF4, 0x0A], .cycle, .press (.number (.int 16)), .toggle "j"]
    ⟨fun _ => rfl, nofun, nofun, nofun, trivial⟩
  have hblocked : m.blocked = true := by decide +kernel
  have hkeys : m.keypad.pressed = [] := by decide +kernel
  obtain ⟨hop, -, hlater⟩ := hwait hblocked
  refine ⟨hop, (hlater [.cycle] ⟨⟨nofun, nofun⟩, trivial⟩).1 ?_⟩
  rw [history_cycle_of_none fs (fault?_of_awaitKey hop)]
  intro x hx
  rw [List.mem_singleton.mp hx, hkeys]

end Machine

end ChipEight
