import ChipEight.Proofs.WellFormed

/-!
# Back to power-on

A reset starts the machine anew and leaves nothing of its past but the settings and the random source,
which stay as they are. The bare machine restores its parts in place: it writes over its memory and
darkens the pixels that it has. So it takes the invariant to see that a reset gives a new machine: after
any calls of the host the display still has all its rows and columns, and a tick at least one cycle
(`call_reset`).
-/

namespace ChipEight

/-- A call of the host: an operation, with the files that there are at that time. -/
structure HostCall where
  files : Files
  operation : Operation

namespace BareMachine

/-- Makes a call. It answers or stops, and leaves a machine behind either way. -/
def call (s : BareMachine) (c : HostCall) : EStateM.Result Stop BareMachine Reply :=
  (apply c.files c.operation).run s

/-- The machine after calls one after the other, whether they succeed or not. -/
def after (s : BareMachine) : List HostCall → BareMachine
  | [] => s
  | c :: calls => (left (s.call c)).after calls

/-- What comes of calls one after the other: the answer to each, or what stopped it, and the machine
that it leaves behind. -/
def outcomes (s : BareMachine) : List HostCall → List (EStateM.Result Stop BareMachine Reply)
  | [] => []
  | c :: calls => s.call c :: (left (s.call c)).outcomes calls

/-- A new machine that is given the settings of another one, and its random source where it is. -/
def renewed (s : BareMachine) : BareMachine :=
  { new s.switch s.cyclesPerTick s.draws with drawn := s.drawn }

/-! ## What calls keep -/

variable {s : BareMachine}

/-- A call keeps the machine well formed, and the random source gives the same numbers as ever. -/
theorem call_keeps (h : s.WellFormed) (c : HostCall) :
    (left (s.call c)).WellFormed ∧ (left (s.call c)).draws = s.draws := by
  refine ⟨wellFormed_left h c.files c.operation, ?_⟩
  obtain ⟨m, hd, hm⟩ := (wellFormed_iff s).mp h
  have hcall : s.call c = Machine.answer s.draws (m.apply c.files c.operation) := by
    rw [← run_apply m c.files hd c.operation, hm]
    rfl
  rw [hcall, left_answer]
  rfl

theorem after_keeps (h : s.WellFormed) (calls : List HostCall) :
    (s.after calls).WellFormed ∧ (s.after calls).draws = s.draws := by
  induction calls generalizing s with
  | nil => exact ⟨h, rfl⟩
  | cons c calls ih =>
    obtain ⟨hnext, hdraws⟩ := call_keeps h c
    obtain ⟨hend, hsame⟩ := ih hnext
    exact ⟨hend, hsame.trans hdraws⟩

/-! ## Reset -/

/-- A display that has all its rows and columns is as good as new once it is dark. -/
theorem darkened_of_wellFormed (h : s.WellFormed) :
    darkened s.pixels =
      List.replicate Layout.displayHeight (List.replicate Layout.displayWidth false) := by
  rw [List.eq_replicate_iff]
  constructor
  · rw [darkened, List.length_map, h.length_pixels]
    rfl
  · intro row hrow
    obtain ⟨old, hold, rfl⟩ := List.mem_map.mp hrow
    rw [List.map_const', h.length_row old hold]
    rfl

theorem call_reset (h : s.WellFormed) (fs : Files) :
    s.call ⟨fs, .reset⟩ = .ok .done s.renewed := by
  have hpixels := darkened_of_wellFormed h
  have hcycles : max 1 s.cyclesPerTick = s.cyclesPerTick := max_eq_right h.one_le_cyclesPerTick
  simp only [call, apply, reset, EStateM.run_bind, EStateM.run_modify, hpixels]
  simp only [renewed, new, hcycles]
  rfl

theorem wellFormed_renewed (s : BareMachine) : s.renewed.WellFormed := by
  have h : (new s.switch s.cyclesPerTick s.draws).WellFormed := wellFormed_new _ _ _
  -- Where the random source is has no part in the invariant.
  exact { h with }

theorem renewed_renewed (h : s.WellFormed) : s.renewed.renewed = s.renewed := by
  have hcycles : max 1 s.cyclesPerTick = s.cyclesPerTick := max_eq_right h.one_le_cyclesPerTick
  simp only [renewed, new, hcycles]

/-- Whatever calls a host has made since power-on, and however they ended, a reset gives the machine
that is new but for its settings and its random source; both are what they were, and the source goes on
from where it is. So nothing that a host does afterwards can tell the two apart, neither by an answer nor
by an error nor by any part of the machine, and one more reset changes nothing. The reset of the machine
itself is this one. -/
theorem reset_starts_anew (switch : Switch → Json) (n : Int) (draws : Nat → Int)
    (before : List HostCall) (fs : Files) :
    let s := (new switch n draws).after before
    let r := s.call ⟨fs, .reset⟩
    r = .ok .done s.renewed ∧ s.renewed.draws = draws ∧
    (∀ later : List HostCall, (left r).outcomes later = s.renewed.outcomes later) ∧
    (∀ fs' : Files, (left r).call ⟨fs', .reset⟩ = r) ∧
    ∀ (m : Machine) (d : Nat → Int),
      (m.bare d).call ⟨fs, .reset⟩ = .ok .done ((Machine.new m.settings m.random).bare d) := by
  intro s r
  obtain ⟨hs, hdraws⟩ := after_keeps (wellFormed_new switch n draws) before
  have hr : r = .ok .done s.renewed := call_reset hs fs
  have hleft : left r = s.renewed := by rw [hr]; rfl
  refine ⟨hr, hdraws, ?_, ?_, ?_⟩
  · intro later
    rw [hleft]
  · intro fs'
    rw [hleft, call_reset (wellFormed_renewed s) fs', renewed_renewed hs, hr]
  · intro m d
    simp only [call, apply, EStateM.run_bind, run_reset]
    rfl

end BareMachine

end ChipEight
