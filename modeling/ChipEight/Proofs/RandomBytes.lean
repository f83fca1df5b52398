import ChipEight.Proofs.Faults
import ChipEight.Proofs.History
import ChipEight.Proofs.PowerOn

/-!
# Random bytes are used up in order

A random source gives one byte after the other. Of all that happens to a machine, only the random
instruction asks for one, and it asks for exactly one (`Machine.random_cycle`). So the cycles of a history
that draw a byte meet the source after none, one, two, … bytes (`Machine.Leads.random`), whatever else the
host and the program do in between, and the source ends up as many bytes further on as there are such
cycles (`Machine.random_bytes_in_order`).
-/

namespace ChipEight

/-- The bytes of a tape come from where it has been read to. -/
theorem RandomSource.upcoming_tape (byteAt : Nat → UInt8) (n k : Nat) :
    (tape byteAt n).upcoming k = byteAt (n + k) := by
  have hafter : (tape byteAt n).after k = tape byteAt (n + k) := by
    induction k with
    | zero => rfl
    | succ k ih =>
      rw [after, ih]
      rfl
  rw [upcoming, hafter]
  rfl

namespace Machine

/-! ## One cycle -/

/-- A cycle draws one byte if its instruction is the random one, and none otherwise. -/
theorem random_cycle (m : Machine) :
    m.cycle.random = if m.currentOp = .random then m.random.next.2 else m.random := by
  show (m.effect m.currentOp m.fetch).random = _
  by_cases hop : m.currentOp = .random
  · rw [if_pos hop, hop]
    rfl
  · rw [if_neg hop, random_effect m m.fetch hop]

/-- What is drawn goes to VX through the mask, be it zero, and also when X is F. -/
theorem reg_cycle_of_random {m : Machine} (hop : m.currentOp = .random) :
    m.cycle.reg m.fetch.x = m.random.next.1 &&& m.fetch.nn := by
  show (m.effect m.currentOp m.fetch).reg m.fetch.x = _
  rw [hop]
  exact reg_setReg_self m m.fetch.x _

/-- The host does not touch the random source, be it by loading or by a reset. -/
theorem random_apply_of_host (fs : Files) (m : Machine) {op : Operation}
    (hop : op.executes = false) : (m.apply fs op).2.random = m.random := by
  by_cases hreset : op = .reset
  · rw [hreset]
    rfl
  · obtain ⟨memory, keypad, settings, hm, -⟩ := apply_of_host fs m hop hreset
    rw [hm]

/-! ## Along a history -/

/-- The cycles among those listed that draw a byte. -/
def drawing (ms : List Machine) : List Machine := ms.filter fun x => x.currentOp = .random

theorem drawing_cons_of_random {x : Machine} (xs : List Machine) (hop : x.currentOp = .random) :
    drawing (x :: xs) = x :: drawing xs :=
  List.filter_cons_of_pos (decide_eq_true hop)

theorem drawing_cons_of_ne {x : Machine} (xs : List Machine) (hop : x.currentOp ≠ .random) :
    drawing (x :: xs) = drawing xs :=
  List.filter_cons_of_neg (by simpa using hop)

theorem currentOp_of_mem_drawing {x : Machine} {ms : List Machine} (hx : x ∈ drawing ms) :
    x.currentOp = .random :=
  of_decide_eq_true (List.mem_filter.mp hx).2

/-- Cycle after cycle, the source goes on by a byte for each one that draws, and the `k`th of these
finds it after `k` bytes. -/
theorem Leads.random {s s' : RandomSource} {ms : List Machine}
    (h : Leads Machine.random s ms s') :
    s' = s.after (drawing ms).length ∧
      ∀ (k : Nat) (hk : k < (drawing ms).length), (drawing ms)[k].random = s.after k := by
  induction ms generalizing s with
  | nil => exact ⟨h.symm, nofun⟩
  | cons x xs ih =>
    obtain ⟨rfl, -, hxs⟩ := h
    rw [random_cycle] at hxs
    by_cases hop : x.currentOp = .random
    · rw [if_pos hop] at hxs
      obtain ⟨hend, hmeet⟩ := ih hxs
      simp only [drawing_cons_of_random xs hop, List.length_cons]
      refine ⟨?_, ?_⟩
      · rw [hend, RandomSource.after_next]
      · intro k hk
        cases k with
        | zero => rfl
        | succ k =>
          -- The cycles behind the first one are a byte further on.
          rw [List.getElem_cons_succ, hmeet k (Nat.lt_of_succ_lt_succ hk), RandomSource.after_next]
    · rw [if_neg hop] at hxs
      simp only [drawing_cons_of_ne xs hop]
      exact ih hxs

/-- The random source is handed on from cycle to cycle by everything that a host can do. -/
theorem leads_random (fs : Files) (m : Machine) (ops : List Operation) :
    Leads Machine.random m.random (history fs m ops) (m.applyAll fs ops).random := by
  refine leads_history (fun _ => rfl) fs ?_ m
  intro op _ hop x
  exact random_apply_of_host fs x hop

end Machine

/-- The bare machine after operations is the machine after them. -/
theorem BareMachine.after_map (fs : Files) {m : Machine} {d : Nat → Int} (hd : m.random.Gives d)
    (ops : List Operation) : (m.bare d).after (ops.map (HostCall.mk fs)) = (m.applyAll fs ops).bare d := by
  induction ops generalizing m with
  | nil => rfl
  | cons op ops ih =>
    have hnext : left ((m.bare d).call ⟨fs, op⟩) = (m.apply fs op).2.bare d := by
      rw [call, run_apply m fs hd op, left_answer]
    have hgives : (m.apply fs op).2.random.Gives d := (Machine.gives_kept d).apply fs m op hd
    rw [List.map_cons, after, hnext]
    exact ih hgives

namespace Machine

/-- Whatever the operations, and whether they succeed or not: the source ends up as many bytes further
on as random instructions were carried out, and the `k`th of these leaves VX with the `k`th byte under
its mask. A cycle of any other instruction draws nothing, nor does one that cannot be carried out, nor
does the host. The history in which the random instructions are counted has all cycles of all operations;
each operation but a reset counts them itself. The bare machine draws as often. -/
theorem random_bytes_in_order (fs : Files) (m : Machine) (ops : List Operation) :
    let drawn := drawing (history fs m ops)
    (m.applyAll fs ops).random = m.random.after drawn.length ∧
    (m.applyAll fs ops).random.drawn = m.random.drawn + drawn.length ∧
    (∀ (k : Nat) (hk : k < drawn.length),
      drawn[k].cycle.reg drawn[k].fetch.x = m.random.upcoming k &&& drawn[k].fetch.nn) ∧
    (∀ byteAt n, m.random = .tape byteAt n → ∀ k, m.random.upcoming k = byteAt (n + k)) ∧
    (∀ x : Machine, x.currentOp ≠ .random → x.cycle.random = x.random) ∧
    (∀ (x : Machine) (op : Operation), op.executes = false ∨ x.fault? ≠ none →
      (x.apply fs op).2.random = x.random) ∧
    (∀ op ops', history fs m (op :: ops') = history fs m [op] ++ history fs (m.apply fs op).2 ops') ∧
    (∀ (x : Machine) (op : Operation), op ≠ .reset →
      (x.apply fs op).2.cycles = x.cycles + (history fs x [op]).length) ∧
    ∀ d, m.random.Gives d →
      (m.bare d).after (ops.map (HostCall.mk fs)) = (m.applyAll fs ops).bare d ∧
      ((m.bare d).after (ops.map (HostCall.mk fs))).drawn = m.random.drawn + drawn.length := by
  intro drawn
  obtain ⟨hend, hmeet⟩ := (leads_random fs m ops).random
  have hcount : (m.applyAll fs ops).random.drawn = m.random.drawn + drawn.length := by
    rw [hend, RandomSource.drawn_after]
  refine ⟨hend, hcount, ?_, ?_, ?_, ?_, ?_, ?_, ?_⟩
  · intro k hk
    have hop : drawn[k].currentOp = .random := currentOp_of_mem_drawing (List.getElem_mem hk)
    rw [reg_cycle_of_random hop, hmeet k hk, RandomSource.upcoming]
  · intro byteAt n hm k
    rw [hm, RandomSource.upcoming_tape]
  · intro x hop
    rw [random_cycle, if_neg hop]
  · rintro x op (hhost | hfault)
    · exact random_apply_of_host fs x hhost
    · cases hop : op.executes with
      | false => exact random_apply_of_host fs x hop
      | true =>
        obtain ⟨f, hf⟩ := Option.ne_none_iff_exists'.mp hfault
        rw [snd_apply_of_fault fs hf hop]
  · exact history_cons_eq_append fs m
  · intro x op hreset
    exact cycles_apply fs x hreset
  · intro d hd
    have hbare := BareMachine.after_map fs hd ops
    refine ⟨hbare, ?_⟩
    rw [hbare]
    exact hcount

/-- A tick draws twice, the second time into VF through an empty mask, and faults; after a reset the third
byte is the next one. -/
theorem random_bytes_in_order_reset :
    let fs : Files := ⟨fun _ => .missing, fun _ => none⟩
    let d : Nat → Int := fun k => 0x5A + k
    let m : Machine := new .standard (.tape (fun k => byteOfInt (d k)) 0)
    let program : List UInt8 := [0xC5, 0x0F, 0xCF, 0x00]
    let ops : List Operation := [.load program, .tick, .reset, .load program, .cycle]
    (m.applyAll fs ops).random.drawn = 3 ∧
    ((m.bare d).after (ops.map (HostCall.mk fs))).drawn = 3 ∧
    ∃ x ∈ history fs m ops, x.cycle.reg x.fetch.x = 0x5C &&& x.fetch.nn := by
  intro fs d m program ops
  have hlength : (drawing (history fs m ops)).length = 3 := by decide +kernel
  obtain ⟨-, hdrawn, hreg, htape, -, -, -, -, hbare⟩ := random_bytes_in_order fs m ops
  obtain ⟨-, hbare⟩ := hbare d (RandomSource.gives_tape d 0)
  rw [hlength] at hdrawn hbare
  have hthird := hreg 2 (hlength ▸ Nat.lt_succ_self 2)
  rw [htape _ 0 rfl 2] at hthird
  exact ⟨hdrawn, hbare, _, List.mem_of_mem_filter (List.getElem_mem _), hthird⟩

end Machine

end ChipEight
