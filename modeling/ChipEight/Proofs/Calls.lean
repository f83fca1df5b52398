import ChipEight.Proofs.Faults
import ChipEight.Proofs.Footprint
import ChipEight.Proofs.History

/-!
# Calls and returns

A call saves its own address, and a return goes one step past the saved address. In between, a
subroutine may call, jump, skip and rewrite itself as it likes: as long as the stack stays deeper
than it was at the call, the addresses saved up to and including the call stay a prefix of the
saved addresses (`prefix_cycle`). So whatever brings the stack back is a return, and it goes back
to the call (`return_matches_call`).
-/

namespace ChipEight

theorem CallStack.depth_eq_of_frames_eq {s t : CallStack} (h : s.frames = t.frames) :
    s.depth = t.depth := by
  refine Fin.ext ?_
  rw [← length_frames, ← length_frames, h]

/-- Two stacks with the same view hold the same in every slot in use. -/
theorem CallStack.slots_eq_of_frames_eq {s t : CallStack} (h : s.frames = t.frames) {k : Nat}
    (hk : k < s.depth.val) (h16 : k < 16) : s.slots[k] = t.slots[k] := by
  have hdepth := depth_eq_of_frames_eq h
  have hslot (u : CallStack) (hu : k < u.depth.val) : u.frames[k]? = some u.slots[k] := by
    rw [frames, List.getElem?_take_of_lt hu, Vector.getElem?_toList, Vector.getElem?_eq_getElem h16]
  have hs := hslot s hk
  rw [h, hslot t (hdepth ▸ hk)] at hs
  exact (Option.some.inj hs).symm

namespace Machine

variable {m : Machine}

/-! ## What one cycle does to the stack -/

/-- A call saves its own address. -/
theorem frames_cycle_call (hm : m.fault? = none) (hcall : m.currentOp = .call) :
    m.cycle.stack.frames = m.stack.frames ++ [m.pc] := by
  have hroom : ¬m.stack.depth.val = 16 := fun h => (fault?_eq_none_iff.mp hm).2.1 ⟨hcall, h⟩
  have hcycle : m.cycle.stack = (m.enter m.fetch.nnn).stack := by
    unfold currentOp at hcall
    simp only [cycle, finish, hcall, effect]
  rw [hcycle, enter]
  cases hpush : m.stack.push? m.pc with
  | none => exact absurd ((CallStack.push?_eq_none_iff _ _).mp hpush) hroom
  | some t => exact CallStack.frames_of_push? hpush

/-- A return takes the last saved address and goes one step past it. -/
theorem frames_cycle_ret (hm : m.fault? = none) (hret : m.currentOp = .ret) :
    ∃ a, m.stack.frames = m.cycle.stack.frames ++ [a] ∧ m.cycle.pc = a + 2 := by
  have hsome : ¬m.stack.depth.val = 0 := fun h => (fault?_eq_none_iff.mp hm).2.2 ⟨hret, h⟩
  have hcycle : m.cycle = m.leave.finish 2 := by
    unfold currentOp at hret
    simp only [cycle, hret, effect, advance, step]
  rw [hcycle, leave]
  cases hpop : m.stack.pop? with
  | none => exact absurd (CallStack.pop?_eq_none_iff _ |>.mp hpop) hsome
  | some r => exact ⟨r.1, CallStack.frames_of_pop? hpop, rfl⟩

theorem stack_cycle (hcall : m.currentOp ≠ .call) (hret : m.currentOp ≠ .ret) :
    m.cycle.stack = m.stack :=
  stack_effect m m.fetch hcall hret

/-! ## Inside a subroutine -/

variable {saved : List Word} {a : Word}

/-- A cycle that stays deeper than the call leaves the addresses saved up to the call alone. -/
theorem prefix_cycle (hm : m.fault? = none) (h : saved ++ [a] <+: m.stack.frames)
    (hdeep : saved.length < m.cycle.stack.depth.val) : saved ++ [a] <+: m.cycle.stack.frames := by
  by_cases hcall : m.currentOp = .call
  · rw [frames_cycle_call hm hcall]
    exact h.trans (List.prefix_append _ _)
  by_cases hret : m.currentOp = .ret
  · obtain ⟨b, hframes, -⟩ := frames_cycle_ret hm hret
    -- The return takes an address behind the call's, because what is left is still long enough.
    refine List.prefix_of_prefix_length_le h ?_ ?_
    · rw [hframes]
      exact List.prefix_append _ _
    · rw [List.length_append, List.length_singleton, CallStack.length_frames]
      exact hdeep
  · rw [stack_cycle hcall hret]
    exact h

/-- A cycle that brings the stack back to where it was at the call is the return of that call. -/
theorem ret_of_prefix (hm : m.fault? = none) (h : saved ++ [a] <+: m.stack.frames)
    (hback : m.cycle.stack.depth.val ≤ saved.length) :
    m.currentOp = .ret ∧ m.cycle.stack.frames = saved ∧ m.cycle.pc = a + 2 := by
  have hlength := h.length_le
  rw [List.length_append, List.length_singleton] at hlength
  have hret : m.currentOp = .ret := by
    -- Any other instruction leaves the stack too deep.
    by_contra hret
    by_cases hcall : m.currentOp = .call
    · have hframes := congrArg List.length (frames_cycle_call hm hcall)
      rw [CallStack.length_frames, List.length_append, List.length_singleton] at hframes
      omega
    · rw [← CallStack.length_frames, stack_cycle hcall hret] at hback
      omega
  obtain ⟨b, hframes, hpc⟩ := frames_cycle_ret hm hret
  have hlast : saved ++ [a] = m.cycle.stack.frames ++ [b] := by
    rw [hframes] at h
    refine h.eq_of_length_le ?_
    rw [List.length_append, List.length_append, CallStack.length_frames]
    exact Nat.add_le_add_right hback 1
  obtain ⟨hsaved, ha⟩ := List.append_inj' hlast rfl
  refine ⟨hret, hsaved.symm, ?_⟩
  rw [hpc, List.head_eq_of_cons_eq ha]

/-- As long as every cycle begins deeper than the call, the addresses saved up to the call are
where they were. -/
theorem prefix_of_leads {s b : List Word} {between after : List Machine} {last : Machine}
    (h : Leads (fun x => x.stack.frames) s (between ++ last :: after) b)
    (hs : saved.length < s.length → saved ++ [a] <+: s)
    (hdeep : ∀ x ∈ between ++ [last], saved.length < x.stack.depth.val) :
    saved ++ [a] <+: last.stack.frames := by
  induction between generalizing s with
  | nil =>
    have hlast := hdeep last (List.mem_singleton.mpr rfl)
    rw [← CallStack.length_frames] at hlast
    obtain ⟨rfl, -⟩ := h
    exact hs hlast
  | cons x xs ih =>
    obtain ⟨rfl, hx, hxs⟩ := h
    have hxdeep := hdeep x List.mem_cons_self
    rw [← CallStack.length_frames] at hxdeep
    refine ih hxs (fun hcycle => ?_) (fun y hy => hdeep y (List.mem_cons_of_mem x hy))
    rw [CallStack.length_frames] at hcycle
    exact prefix_cycle hx (hs hxdeep) hcycle

/-- The first cycle after a call that brings the stack back is the return of that call. -/
theorem return_of_leads {s b : List Word} {before between after : List Machine}
    {call last : Machine}
    (h : Leads (fun x => x.stack.frames) s (before ++ call :: (between ++ last :: after)) b)
    (hcall : call.currentOp = .call)
    (hdeep : ∀ x ∈ between ++ [last], call.stack.depth.val < x.stack.depth.val)
    (hback : last.cycle.stack.depth.val ≤ call.stack.depth.val) :
    last.currentOp = .ret ∧ last.cycle.stack.frames = call.stack.frames ∧
      last.cycle.pc = call.pc + 2 := by
  obtain ⟨-, hcallfault, hrest⟩ := h.tail
  obtain ⟨-, hlastfault, -⟩ := hrest.tail
  rw [← CallStack.length_frames call.stack] at hdeep hback
  have hprefix : call.stack.frames ++ [call.pc] <+: last.stack.frames := by
    refine prefix_of_leads hrest (fun _ => ?_) hdeep
    show call.stack.frames ++ [call.pc] <+: call.cycle.stack.frames
    rw [frames_cycle_call hcallfault hcall]
  exact ret_of_prefix hlastfault hprefix hback

/-- A history without a reset lists every cycle that was counted. Take a call in it, and the first
cycle after the call that brings the stack back to the depth it had, or below: that cycle is a
return, it goes to the instruction after the call, and the addresses saved before the call are as
they were. -/
theorem return_matches_call (fs : Files) (m : Machine) (ops : List Operation)
    (hreset : ∀ op ∈ ops, op ≠ .reset) :
    (m.applyAll fs ops).cycles = m.cycles + (history fs m ops).length ∧
    ∀ (before between after : List Machine) (call last : Machine),
      history fs m ops = before ++ call :: (between ++ last :: after) →
      call.currentOp = .call →
      (∀ x ∈ between ++ [last], call.stack.depth.val < x.stack.depth.val) →
      last.cycle.stack.depth.val ≤ call.stack.depth.val →
        last.currentOp = .ret ∧
        last.cycle.pc.toNat = (call.pc.toNat + 2) % 0x10000 ∧
        last.cycle.stack.depth = call.stack.depth ∧
        ∀ (k : Nat) (h16 : k < 16), k < call.stack.depth.val →
          last.cycle.stack.slots[k] = call.stack.slots[k] := by
  refine ⟨length_history fs hreset m, ?_⟩
  intro before between after call last hhistory hcall hdeep hback
  -- Between cycles, nothing but a reset touches the stack.
  have hhost (op : Operation) (hmem : op ∈ ops) (hop : op.executes = false) (x : Machine) :
      (x.apply fs op).2.stack.frames = x.stack.frames := by
    obtain ⟨memory, keypad, settings, hx, -⟩ := apply_of_host fs x hop (hreset op hmem)
    rw [hx]
  have hleads := leads_history (f := fun x => x.stack.frames) (fun _ => rfl) fs hhost m
  rw [hhistory] at hleads
  obtain ⟨hret, hframes, hpc⟩ := return_of_leads hleads hcall hdeep hback
  have hdepth : last.cycle.stack.depth = call.stack.depth := by
    rw [Fin.ext_iff, ← CallStack.length_frames, ← CallStack.length_frames, hframes]
  refine ⟨hret, ?_, hdepth, fun k h16 hk => ?_⟩
  · rw [hpc, UInt16.toNat_add]
    rfl
  · rw [← hdepth] at hk
    exact CallStack.slots_eq_of_frames_eq hframes hk h16

/-- Three instructions in a tick, and a program that calls a subroutine which calls another one. -/
def nestedCalls : Machine :=
  { new { cycles := 3 } (.tape (fun _ => 0) 0) with
    memory := Memory.zero.writeAll 0x200
      [0x22, 0x04, 0x12, 0x02, 0x22, 0x08, 0x00, 0xEE, 0x00, 0xEE] }

/-- The same machine after the first call, with a key pressed. -/
def insideCall : Machine := nestedCalls.cycle.press 3

/-- The inner return leaves the stack too deep; the outer one is the one that goes back. -/
theorem return_matches_call_nested :
    insideCall.cycle.cycle.currentOp = .ret ∧
    insideCall.cycle.cycle.cycle.pc.toNat = (nestedCalls.pc.toNat + 2) % 0x10000 := by
  let fs : Files := ⟨fun _ => .missing, fun _ => none⟩
  let key : KeyRef := .number (.int 3)
  have hkey : key.index = .ok 3 := rfl
  have hpress : nestedCalls.cycle.apply fs (.press key) = (.ok .done, insideCall) := by
    rw [apply, hkey, insideCall]
  have hcycles : insideCall.settings.cycles = 3 := by decide +kernel
  have h₀ : nestedCalls.fault? = none := by decide +kernel
  have h₁ : insideCall.fault? = none := by decide +kernel
  have h₂ : insideCall.cycle.fault? = none := by decide +kernel
  have h₃ : insideCall.cycle.cycle.fault? = none := by decide +kernel
  have hhistory : history fs nestedCalls [.cycle, .press key, .tick] =
      [] ++ nestedCalls :: ([insideCall, insideCall.cycle] ++ insideCall.cycle.cycle :: []) := by
    simp only [history, watchAll, watchOperation, watchTick, watchCycles, note, hcycles,
      apply_cycle_of_none, hpress, h₀, h₁, h₂, h₃, List.nil_append, List.cons_append]
  have hmatch := (return_matches_call fs nestedCalls _ (by simp)).2 _ _ _ _ _ hhistory
  obtain ⟨hret, hpc, -⟩ :=
    hmatch (by decide +kernel) (by decide +kernel) (by decide +kernel)
  exact ⟨hret, hpc⟩

end Machine

end ChipEight
