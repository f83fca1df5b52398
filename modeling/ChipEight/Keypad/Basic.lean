import ChipEight.Number.Nibble

/-!
# Keypad

Sixteen keys, each pressed or not. The host writes them between ticks and instructions read them.
`Keypad.pressed` is the view of a keypad as a set: an ascending list of keys.
-/

namespace ChipEight

/-- A key, named by its hexadecimal digit. -/
abbrev Key := Nibble

/-- One flag for each key. -/
structure Keypad where
  keys : Vector Bool 16
  deriving DecidableEq, Repr

namespace Keypad

/-- No key is pressed. -/
def empty : Keypad := ⟨Vector.replicate _ false⟩

instance : Inhabited Keypad := ⟨empty⟩

/-- Sets one key. -/
def set (k : Keypad) (key : Key) (pressed : Bool) : Keypad :=
  ⟨k.keys.set key.val pressed key.val_lt⟩

def press (k : Keypad) (key : Key) : Keypad := k.set key true

def release (k : Keypad) (key : Key) : Keypad := k.set key false

/-- The key that a number selects: its low four bits. -/
def select (n : Int) : Key := .ofInt n

/-- Is the key that a number selects pressed? -/
def isPressed (k : Keypad) (n : Int) : Bool := k.keys.get (select n)

/-- The pressed keys, ascending. -/
def pressed (k : Keypad) : List Key :=
  (List.finRange 16).filter k.keys.get

/-- The lowest pressed key. -/
def first? (k : Keypad) : Option Key :=
  (List.finRange 16).find? k.keys.get

/-- The flag at a place counted from the front, or, if negative, from the end. -/
def get? (k : Keypad) (place : Int) : Option Bool :=
  let n := if place < 0 then place + 16 else place
  if n < 0 then none else k.keys[n.toNat]?

theorem first?_eq_head? (k : Keypad) : k.first? = k.pressed.head? := by
  simp [first?, pressed]

theorem get_set (k : Keypad) (a b : Key) (pressed : Bool) :
    (k.set a pressed).keys.get b = if a = b then pressed else k.keys.get b := by
  show (k.keys.set a.val pressed a.val_lt)[b.val] = if a = b then pressed else k.keys[b.val]
  simp only [Vector.getElem_set, Fin.ext_iff]

theorem mem_pressed {k : Keypad} {a : Key} : a ∈ k.pressed ↔ k.keys.get a = true := by
  simp [pressed]

/-- The lowest pressed key is the first one among the flags. -/
theorem findIdx?_keys (k : Keypad) : k.keys.toList.findIdx? id = k.first?.map (·.val) := by
  have hkeys : k.keys.toList = (List.finRange 16).map k.keys.get := by
    apply List.ext_getElem
    · simp
    · intro i h₁ h₂
      simp [Vector.get]
  rw [hkeys, List.findIdx?_map]
  cases h : k.first? with
  | none =>
    simp only [first?, List.find?_eq_none] at h
    simpa [List.findIdx?_eq_none_iff] using h
  | some a =>
    simp only [first?, List.find?_eq_some_iff_getElem] at h
    obtain ⟨ha, i, hi, rfl, hlt⟩ := h
    rw [Option.map_some, List.findIdx?_eq_some_iff_getElem]
    refine ⟨by simpa using hi, by simpa using ha, ?_⟩
    intro j hj
    simp at hj
    simpa using hlt j hj

end Keypad

end ChipEight
