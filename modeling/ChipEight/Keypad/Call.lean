import ChipEight.Keypad.KeyRef

/-!
# Calls on a keypad

What a host asks of a keypad: to press or to release a key, to set one by a value of the host's own, or
to release all of them. A reference that names no key is refused, and nothing changes then.
-/

namespace ChipEight.Keypad

/-- A call that changes keys. -/
inductive Call where
  | press (key : KeyRef)
  | release (key : KeyRef)
  /-- Presses a key if the value counts as true, and releases it otherwise. -/
  | set (key : KeyRef) (value : Json)
  | clear
  deriving Repr

/-- Changes the key of a reference, if there is one. -/
def change (k : Keypad) (ref : KeyRef) (f : Key → Keypad) : Except KeyError Unit × Keypad :=
  match ref.index with
  | .ok key => (.ok (), f key)
  | .error e => (.error e, k)

/-- The answer of a call, and the keypad after it. -/
def call (k : Keypad) : Call → Except KeyError Unit × Keypad
  | .press ref => k.change ref k.press
  | .release ref => k.change ref k.release
  | .set ref value => k.change ref fun key => k.set key value.truthy
  | .clear => (.ok (), empty)

/-- Calls one after the other, whether they are refused or not. -/
def callAll (k : Keypad) (calls : List Call) : Keypad :=
  calls.foldl (fun k c => (k.call c).2) k

end ChipEight.Keypad
