import ChipEight.Instruction.Word

/-!
# Call stack

Sixteen slots and the number of slots in use. `CallStack.frames` is the view: the saved addresses,
the oldest one first. Slots that are not in use keep what was last written to them.
-/

namespace ChipEight

/-- The slots and how many of them are in use. -/
structure CallStack where
  slots : Vector Word 16
  depth : Fin 17
  deriving DecidableEq, Repr

namespace CallStack

/-- No slot is in use and all are zero. -/
def empty : CallStack := ⟨Vector.replicate 16 0, 0⟩

instance : Inhabited CallStack := ⟨empty⟩

/-- The saved addresses, the oldest one first. -/
def frames (s : CallStack) : List Word := s.slots.toList.take s.depth

/-- Saves an address; `none` when all slots are in use. -/
def push? (s : CallStack) (a : Word) : Option CallStack :=
  if h : s.depth.val < 16 then
    some ⟨s.slots.set s.depth.val a, ⟨s.depth.val + 1, by omega⟩⟩
  else none

/-- Takes the last saved address; `none` when there is none. -/
def pop? (s : CallStack) : Option (Word × CallStack) :=
  if h : 0 < s.depth.val then
    some (s.slots.get ⟨s.depth.val - 1, by omega⟩, { s with depth := ⟨s.depth.val - 1, by omega⟩ })
  else none

/-! ## Laws of the view -/

@[simp]
theorem frames_empty : empty.frames = [] := rfl

@[simp]
theorem length_frames (s : CallStack) : s.frames.length = s.depth := by
  have := s.depth.isLt
  simp [frames]
  omega

theorem push?_eq_none_iff (s : CallStack) (a : Word) : s.push? a = none ↔ s.depth.val = 16 := by
  have := s.depth.isLt
  simp only [push?]
  split <;> simp <;> omega

theorem pop?_eq_none_iff (s : CallStack) : s.pop? = none ↔ s.depth.val = 0 := by
  simp only [pop?]
  split <;> simp <;> omega

/-- Saving puts an address behind the saved ones. -/
theorem frames_of_push? {s t : CallStack} {a : Word} (h : s.push? a = some t) :
    t.frames = s.frames ++ [a] := by
  unfold push? at h
  split at h
  case isFalse => cases h
  case isTrue hlt =>
    cases h
    show (s.slots.set s.depth.val a).toList.take (s.depth.val + 1) = s.frames ++ [a]
    rw [Vector.toList_set, List.take_add_one, List.take_set_of_le (Nat.le_refl _)]
    simp [frames, hlt]

/-- Taking an address takes the last saved one. -/
theorem frames_of_pop? {s t : CallStack} {a : Word} (h : s.pop? = some (a, t)) :
    s.frames = t.frames ++ [a] := by
  unfold pop? at h
  split at h
  case isFalse => cases h
  case isTrue hpos =>
    cases h
    have hlt := s.depth.isLt
    have hd : s.depth.val - 1 + 1 = s.depth.val := by omega
    have hi : s.depth.val - 1 < 16 := by omega
    have htake : s.slots.toList.take (s.depth.val - 1 + 1) =
        s.slots.toList.take (s.depth.val - 1) ++ [s.slots[s.depth.val - 1]] := by
      rw [List.take_add_one, Vector.getElem?_toList, Vector.getElem?_eq_getElem hi]
      rfl
    rw [hd] at htake
    exact htake

end CallStack

end ChipEight
