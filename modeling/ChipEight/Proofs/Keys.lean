import ChipEight.Keypad.Call
import ChipEight.Number.Numeral
import ChipEight.Proofs.Texts
import ChipEight.Proofs.Toggling
import ChipEight.Proofs.Waiting
import Mathlib

/-!
# Keys that are meant and keys that are pressed

A text means a key if it is the name of the key, or a single character that is an integer in base 16
(`KeyRef.index_name_eq_ok_iff`). The integers may be written in many more ways, with signs, a mark and
underscores, but none of these is a single character (`Numeral.parseHex?_singleton`).

After any calls, some of which may be refused, a key is pressed if and only if the last call that had
something to say about it has left it so (`Keypad.get_callAll`). All other views of a keypad follow
(`Keypad.keys_exact`).
-/

namespace ChipEight

namespace Text

/-! ## Values of digits -/

theorem digitValue?_lt {c : Char} {d : Nat} (h : digitValue? c = some d) : d < 10 := by
  obtain ⟨z, hz, rfl⟩ := Option.map_eq_some_iff.mp h
  have hrange := Array.find?_some hz
  simp only [Bool.and_eq_true, decide_eq_true_eq] at hrange
  omega

theorem hexDigitValue?_lt {c : Char} {d : Nat} (h : hexDigitValue? c = some d) : d < 16 := by
  unfold hexDigitValue? at h
  split_ifs at h with hlower hupper
  · have hlast : c.toNat ≤ 102 := hlower.2
    have hd : c.toNat - 97 + 10 = d := Option.some.inj h
    omega
  · have hlast : c.toNat ≤ 70 := hupper.2
    have hd : c.toNat - 65 + 10 = d := Option.some.inj h
    omega
  · have hd := digitValue?_lt h
    omega

/-- No blank is a digit. -/
theorem hexDigitValue?_of_isBlank {c : Char} (h : isBlank c = true) : hexDigitValue? c = none := by
  have hletters : ∀ r ∈ blanks, r.2 < 65 ∨ 102 < r.1 := by decide
  have hdigits : ∀ r ∈ blanks, ∀ z ∈ digitZeros, r.2 < z ∨ z + 10 ≤ r.1 := by decide
  rw [isBlank, CharSet.contains, Array.any_eq_true] at h
  obtain ⟨k, hk, hrange⟩ := h
  have hmem : blanks[k] ∈ blanks := Array.getElem_mem hk
  have hletter := hletters _ hmem
  simp only [Bool.and_eq_true, decide_eq_true_eq] at hrange
  rw [hexDigitValue?, if_neg, if_neg, digitValue?, Option.map_eq_none_iff, Array.find?_eq_none]
  · intro z hz
    have hdigit := hdigits _ hmem z hz
    simp only [Bool.and_eq_true, decide_eq_true_eq]
    omega
  · rintro ⟨hfirst, hlast⟩
    have hfirst : 65 ≤ c.toNat := hfirst
    have hlast : c.toNat ≤ 70 := hlast
    omega
  · rintro ⟨hfirst, hlast⟩
    have hfirst : 97 ≤ c.toNat := hfirst
    have hlast : c.toNat ≤ 102 := hlast
    omega

end Text

namespace Numeral

open Text

/-! ## Integers in base 16 -/

/-- Hexadecimal digits with single underscores between them, as values; `none` for any other text. -/
def hexRun? : List Char → Option (List Nat)
  | [] => none
  | [c] => (hexDigitValue? c).map ([·])
  | c :: '_' :: rest => do return (← hexDigitValue? c) :: (← hexRun? rest)
  | c :: rest => do return (← hexDigitValue? c) :: (← hexRun? rest)

/-- Drops the mark `0x` in front of digits, in either case, and one underscore behind it. -/
def dropHexMark : List Char → List Char
  | z :: x :: rest =>
    if hexDigitValue? z = some 0 ∧ (x = 'x' ∨ x = 'X') then
      if rest.head? = some '_' then rest.tail else rest
    else z :: x :: rest
  | s => s

/-- Reads an integer in base 16 as people may write it: blanks around it, one sign, a mark, and digits
with single underscores between them. -/
def parseHex? (s : List Char) : Option Int :=
  let (negative, body) := splitSign (trim isPadding s)
  (hexRun? (dropHexMark body)).map fun ds =>
    let n := ds.foldl (fun n d => 16 * n + d) 0
    if negative then -(n : Int) else n

/-- A single character is an integer just when it is a digit. -/
theorem parseHex?_singleton (c : Char) : parseHex? [c] = (hexDigitValue? c).map Int.ofNat := by
  by_cases hpadding : isPadding c = true
  · -- Nothing is left without the blank.
    have hblank : isBlank c = true := by
      rw [isPadding, Bool.and_eq_true] at hpadding
      exact hpadding.1
    rw [hexDigitValue?_of_isBlank hblank]
    simp [parseHex?, trim, hpadding, splitSign, dropHexMark, hexRun?]
  · have htrim : trim isPadding [c] = [c] := by simp [trim, hpadding]
    rw [parseHex?, htrim]
    -- A sign has nothing behind it, and is no digit itself.
    by_cases hminus : c = '-'
    · subst hminus
      have hdigit : hexDigitValue? '-' = none := by decide
      simp [splitSign, dropHexMark, hexRun?, hdigit]
    by_cases hplus : c = '+'
    · subst hplus
      have hdigit : hexDigitValue? '+' = none := by decide
      simp [splitSign, dropHexMark, hexRun?, hdigit]
    have hsign : splitSign [c] = (false, [c]) := by
      unfold splitSign
      split <;> simp_all
    rw [hsign]
    simp only [dropHexMark, hexRun?, Option.map_map]
    congr 1
    funext d
    simp

end Numeral

namespace KeyRef

/-! ## Keys by name and by number -/

theorem nameOf_eq (key : Key) : nameOf key = ['K', 'E', 'Y', '_', Hex.capital key.val] := by
  rw [nameOf, Nat.toDigits_of_lt_base key.val_lt]
  rfl

theorem capital_inj {a b : Key} (h : Hex.capital a.val = Hex.capital b.val) : a = b := by
  revert a b
  decide

theorem mem_capitals_iff {c : Char} :
    c ∈ "0123456789ABCDEF".toList ↔ ∃ key : Key, c = Hex.capital key.val := by
  have hdigits : "0123456789ABCDEF".toList =
      (List.finRange 16).map fun key => Hex.capital key.val := rfl
  simp only [hdigits, List.mem_map, List.mem_finRange, true_and, eq_comm]

theorem ofDigit?_eq_some_iff {s : List Char} {key : Key} :
    ofDigit? s = some key ↔ ∃ c, s = [c] ∧ Numeral.parseHex? [c] = some (key.val : Int) := by
  unfold ofDigit?
  split
  · rename_i c
    rw [Option.bind_eq_some_iff]
    simp only [List.cons.injEq, and_true, exists_eq_left', Numeral.parseHex?_singleton,
      Option.map_eq_some_iff]
    refine exists_congr fun d => and_congr_right fun hd => ?_
    simp [Text.hexDigitValue?_lt hd, Fin.ext_iff]
  · rename_i hs
    constructor
    · intro h
      cases h
    · rintro ⟨c, hc, -⟩
      exact absurd hc (hs c)

theorem ofName?_eq_some_iff {s : List Char} {key : Key} :
    ofName? s = some key ↔ s = ['K', 'E', 'Y', '_', Hex.capital key.val] ∨
      ∃ c, s = [c] ∧ Numeral.parseHex? [c] = some (key.val : Int) := by
  unfold ofName?
  split
  · rename_i found hfound
    have hs : nameOf found = s := by simpa using List.find?_some hfound
    subst hs
    -- A name is no single character.
    simp only [nameOf_eq, Option.some.injEq, List.cons.injEq, true_and, and_true,
      List.cons_ne_nil, and_false, false_and, exists_false, or_false]
    constructor
    · rintro rfl
      rfl
    · exact capital_inj
  · rename_i hnone
    rw [ofDigit?_eq_some_iff, or_iff_right]
    rintro rfl
    simpa [nameOf_eq] using List.find?_eq_none.mp hnone key (List.mem_finRange key)

/-- The texts that mean a key. -/
theorem index_name_eq_ok_iff {s : String} {key : Key} :
    (name s).index = .ok key ↔
      Text.upper (Text.strip s.toList) = ['K', 'E', 'Y', '_', Hex.capital key.val] ∨
        ∃ c, Text.upper (Text.strip s.toList) = [c] ∧
          Numeral.parseHex? [c] = some (key.val : Int) := by
  rw [← ofName?_eq_some_iff, index]
  split
  · rename_i found hfound
    rw [hfound, Except.ok.injEq, Option.some.injEq]
  · rename_i hnone
    rw [hnone]
    simp

/-- The texts that mean some key. -/
theorem exists_index_name_iff {s : String} :
    (∃ key, (name s).index = .ok key) ↔
      (∃ d ∈ "0123456789ABCDEF".toList,
        Text.upper (Text.strip s.toList) = ['K', 'E', 'Y', '_', d]) ∨
      ∃ c, Text.upper (Text.strip s.toList) = [c] ∧ (Numeral.parseHex? [c]).isSome = true := by
  simp only [index_name_eq_ok_iff]
  constructor
  · rintro ⟨key, hname | ⟨c, hc, hread⟩⟩
    · exact .inl ⟨_, mem_capitals_iff.mpr ⟨key, rfl⟩, hname⟩
    · exact .inr ⟨c, hc, by rw [hread]; rfl⟩
  · rintro (⟨d, hd, hname⟩ | ⟨c, hc, hread⟩)
    · obtain ⟨key, rfl⟩ := mem_capitals_iff.mp hd
      exact ⟨key, .inl hname⟩
    · rw [Numeral.parseHex?_singleton, Option.isSome_map] at hread
      obtain ⟨d, hd⟩ := Option.isSome_iff_exists.mp hread
      refine ⟨⟨d, Text.hexDigitValue?_lt hd⟩, .inr ⟨c, hc, ?_⟩⟩
      rw [Numeral.parseHex?_singleton, hd]
      rfl

/-- The integers that mean a key. -/
theorem index_int_eq_ok_iff {n : Int} {key : Key} :
    (number (.int n)).index = .ok key ↔ n = key.val := by
  have hkey := key.val_lt
  simp only [index, ofNumber?]
  by_cases hn : 0 ≤ n
  · by_cases hlt : n.toNat < 16
    · simp only [if_pos hn, Option.bind_some, dif_pos hlt, Except.ok.injEq, Fin.ext_iff]
      omega
    · simp only [if_pos hn, Option.bind_some, dif_neg hlt, reduceCtorEq, false_iff]
      omega
  · simp only [if_neg hn, Option.bind_none, reduceCtorEq, false_iff]
    omega

end KeyRef

namespace Keypad

/-! ## One call -/

/-- The reference of a call, if it has one. -/
def Call.ref? : Call → Option KeyRef
  | .press ref | .release ref | .set ref _ => some ref
  | .clear => none

/-- Whether a call leaves a key pressed; `none` if the call is not about the key, or is refused. -/
def Call.leaves? (key : Key) : Call → Option Bool
  | .press ref => if ref.index.toOption = some key then some true else none
  | .release ref => if ref.index.toOption = some key then some false else none
  | .set ref value => if ref.index.toOption = some key then some value.truthy else none
  | .clear => some false

variable {k : Keypad}

/-- A call is refused if its reference names no key. -/
theorem fst_call_eq_error_iff {c : Call} {e : KeyError} :
    (k.call c).1 = .error e ↔ ∃ ref, c.ref? = some ref ∧ ref.index = .error e := by
  have hchange (ref : KeyRef) (f : Key → Keypad) :
      (k.change ref f).1 = .error e ↔ ref.index = .error e := by
    unfold change
    split
    · rename_i hindex
      simp [hindex]
    · rename_i hindex
      simp [hindex]
  cases c <;> simp [call, Call.ref?, hchange]

/-- A call that is refused changes nothing. -/
theorem snd_call_of_error {c : Call} {e : KeyError} (h : (k.call c).1 = .error e) :
    (k.call c).2 = k := by
  obtain ⟨ref, href, hindex⟩ := fst_call_eq_error_iff.mp h
  cases c with
  | clear => cases href
  | press r | release r | set r value =>
    cases href
    rw [call, change, hindex]

/-- A call about a key leaves it as it says, and any other call leaves it as it is. -/
theorem get_call (k : Keypad) (c : Call) (key : Key) :
    (k.call c).2.keys.get key = (c.leaves? key).getD (k.keys.get key) := by
  have hchange (ref : KeyRef) (pressed : Bool) :
      (k.change ref fun key => k.set key pressed).2.keys.get key =
        (if ref.index.toOption = some key then some pressed else none).getD
          (k.keys.get key) := by
    unfold change
    split
    · rename_i found hindex
      rw [hindex, get_set]
      by_cases hfound : found = key
      · simp [hfound, Except.toOption]
      · simp [hfound, Except.toOption]
    · rename_i hindex
      simp [hindex, Except.toOption]
  cases c with
  | press ref => exact hchange ref true
  | release ref => exact hchange ref false
  | set ref value => exact hchange ref value.truthy
  | clear => simp [call, Call.leaves?, empty, Vector.get]

/-- Presses and releases of the machine's keys are such calls. -/
theorem apply_press_and_release (fs : Files) (m : Machine) (ref : KeyRef) :
    m.apply fs (.press ref) =
      (((m.keypad.call (.press ref)).1.map fun _ => Reply.done).mapError .key,
        { m with keypad := (m.keypad.call (.press ref)).2 }) ∧
    m.apply fs (.release ref) =
      (((m.keypad.call (.release ref)).1.map fun _ => Reply.done).mapError .key,
        { m with keypad := (m.keypad.call (.release ref)).2 }) := by
  simp only [Machine.apply, call, change]
  cases ref.index with
  | ok key => exact ⟨rfl, rfl⟩
  | error e => exact ⟨rfl, rfl⟩

/-! ## Many calls -/

/-- After calls a key is as the last one about it has left it. -/
theorem get_callAll (k : Keypad) (calls : List Call) (key : Key) :
    (k.callAll calls).keys.get key =
      (calls.filterMap (·.leaves? key)).getLast?.getD (k.keys.get key) := by
  induction calls generalizing k with
  | nil => rfl
  | cons c calls ih =>
    rw [callAll, List.foldl_cons, ← callAll, ih, get_call]
    cases hleaves : c.leaves? key with
    | none => rw [List.filterMap_cons_none hleaves, Option.getD_none]
    | some pressed =>
      rw [List.filterMap_cons_some hleaves, List.getLast?_cons, Option.getD_some]
      cases (calls.filterMap (·.leaves? key)).getLast? <;> rfl

theorem mem_pressed_callAll {calls : List Call} {key : Key} :
    key ∈ (empty.callAll calls).pressed ↔
      (calls.filterMap (·.leaves? key)).getLast? = some true := by
  have hempty : empty.keys.get key = false := by simp [empty, Vector.get]
  rw [mem_pressed, get_callAll, hempty]
  cases (calls.filterMap (·.leaves? key)).getLast? <;> simp

/-! ## Views of a keypad -/

theorem pairwise_pressed (k : Keypad) : k.pressed.Pairwise (· < ·) :=
  (List.pairwise_lt_finRange 16).filter _

theorem first?_eq_some_iff {key : Key} :
    k.first? = some key ↔ key ∈ k.pressed ∧ ∀ other ∈ k.pressed, key ≤ other := by
  constructor
  · intro h
    rw [first?_eq_head?, List.head?_eq_some_iff] at h
    obtain ⟨rest, hpressed⟩ := h
    have hsorted := k.pairwise_pressed
    rw [hpressed] at hsorted ⊢
    refine ⟨List.mem_cons_self, ?_⟩
    intro other hother
    rcases List.mem_cons.mp hother with rfl | hother
    · exact le_rfl
    · exact (List.rel_of_pairwise_cons hsorted hother).le
  · rintro ⟨hkey, hleast⟩
    exact first?_eq_some hkey hleast

theorem first?_eq_none_iff : k.first? = none ↔ k.pressed = [] := by
  rw [first?_eq_head?, List.head?_eq_none_iff]

theorem isPressed_iff {n : Int} :
    k.isPressed n = true ↔ ∃ key ∈ k.pressed, (key.val : Int) = n % 16 := by
  have hselect : ((select n).val : Int) = n % 16 := Nibble.val_ofInt n
  rw [isPressed, ← mem_pressed]
  constructor
  · intro h
    exact ⟨select n, h, hselect⟩
  · rintro ⟨key, hkey, hval⟩
    have heq : select n = key := by
      rw [Fin.ext_iff]
      omega
    rwa [heq]

/-! ## All about keys -/

/-- A text means a key if, without blanks around it and in upper case, it is the name of the key or a
single character that is an integer in base 16, and an integer means a key if it is the number of the
key. A call is refused, with an error of a value, if and only if its reference means no key, and it
changes nothing then. After any calls on a new keypad the list of the pressed keys ascends, a key is in
it if and only if the last call that was about the key has left it pressed, the first key is the least of
them, and the key that any integer selects is the one of its remainder. -/
theorem keys_exact :
    (∀ (s : String) (key : Key), (KeyRef.name s).index = .ok key ↔
      Text.upper (Text.strip s.toList) = ['K', 'E', 'Y', '_', Hex.capital key.val] ∨
        ∃ c, Text.upper (Text.strip s.toList) = [c] ∧
          Numeral.parseHex? [c] = some (key.val : Int)) ∧
    (∀ s : String, (∃ key, (KeyRef.name s).index = .ok key) ↔
      (∃ d ∈ "0123456789ABCDEF".toList,
        Text.upper (Text.strip s.toList) = ['K', 'E', 'Y', '_', d]) ∨
      ∃ c, Text.upper (Text.strip s.toList) = [c] ∧ (Numeral.parseHex? [c]).isSome = true) ∧
    (∀ (n : Int) (key : Key), (KeyRef.number (.int n)).index = .ok key ↔ n = key.val) ∧
    ∀ calls : List Call,
      let k := empty.callAll calls
      (∀ (c : Call) (e : KeyError),
        ((k.call c).1 = .error e ↔ ∃ ref, c.ref? = some ref ∧ ref.index = .error e) ∧
        ((k.call c).1 = .error e → (k.call c).2 = k) ∧
        (Refusal.key e).isIn .value = true) ∧
      k.pressed.Pairwise (· < ·) ∧
      (∀ key, key ∈ k.pressed ↔ (calls.filterMap (·.leaves? key)).getLast? = some true) ∧
      (∀ key, k.first? = some key ↔ key ∈ k.pressed ∧ ∀ other ∈ k.pressed, key ≤ other) ∧
      (k.first? = none ↔ k.pressed = []) ∧
      ∀ n : Int, k.isPressed n = true ↔ ∃ key ∈ k.pressed, (key.val : Int) = n % 16 := by
  refine ⟨fun _ _ => KeyRef.index_name_eq_ok_iff, fun _ => KeyRef.exists_index_name_iff,
    fun _ _ => KeyRef.index_int_eq_ok_iff, ?_⟩
  intro calls k
  exact ⟨fun c e => ⟨fst_call_eq_error_iff, snd_call_of_error, rfl⟩, k.pairwise_pressed,
    fun key => mem_pressed_callAll, fun key => first?_eq_some_iff, first?_eq_none_iff,
    fun n => isPressed_iff⟩

/-- Calls by name and by number, two of which are refused. -/
def sample : List Call :=
  [.press (.name " key_a\n"), .press (.name "0xB"), .press (.name "٧"), .press (.number (.int 16)),
    .set (.number (.int 3)) (.str "down"), .release (.number (.int 10))]

/-- What a keypad shows after these calls. -/
theorem keys_exact_sample :
    let k := empty.callAll sample
    (3 : Key) ∈ k.pressed ∧ (7 : Key) ∈ k.pressed ∧ (10 : Key) ∉ k.pressed ∧
      k.isPressed (-9) = true ∧ (k.call (.press (.name "ff"))).2 = k := by
  intro k
  obtain ⟨-, -, -, hcalls⟩ := keys_exact
  obtain ⟨hrefused, -, hmem, -, -, hselected⟩ := hcalls sample
  have hlast : (sample.filterMap (·.leaves? 3)).getLast? = some true ∧
      (sample.filterMap (·.leaves? 7)).getLast? = some true ∧
      (sample.filterMap (·.leaves? 10)).getLast? = some false ∧
      (KeyRef.name "ff").index = .error (.unknown "ff") := by decide +kernel
  obtain ⟨hthree, hseven, hten, hindex⟩ := hlast
  have hmemSeven : (7 : Key) ∈ k.pressed := (hmem 7).mpr hseven
  refine ⟨(hmem 3).mpr hthree, hmemSeven, ?_, (hselected (-9)).mpr ⟨7, hmemSeven, rfl⟩, ?_⟩
  · rw [hmem, hten]
    decide
  · obtain ⟨hiff, hkept, -⟩ := hrefused (.press (.name "ff")) (.unknown "ff")
    exact hkept (hiff.mpr ⟨.name "ff", rfl, hindex⟩)

end Keypad

end ChipEight
