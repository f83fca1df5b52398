import ChipEight.Log
import Mathlib

/-!
# Letters of switches

A text of letters is read character by character: the letter of a switch, in either case, turns the
switch on, and of any other character a warning is given. What comes out depends on the lower case
forms of the characters alone, and the letters of settings give their switches again.
-/

namespace ChipEight

/-- Looking up a name in a table is finding its first row. -/
theorem lookup_eq_find? {α β : Type} [BEq α] [LawfulBEq α] (table : List (α × β)) (a : α) :
    table.lookup a = (table.find? fun p => p.1 == a).map (·.2) := by
  induction table with
  | nil => rfl
  | cons p table ih =>
    rw [List.lookup_cons, List.find?_cons, BEq.comm (a := a)]
    cases p.1 == a with
    | true => rfl
    | false => exact ih

/-! ## Lower case of a character -/

namespace Text

/-- A character that stands alone is no end of a word, so that its lower case is its own. -/
theorem lower_singleton (c : Char) : lower [c] = lowerChar c := by
  have hsigma : lowerChar 'Σ' = ['σ'] := by cbv
  by_cases hc : c = 'Σ'
  · subst hc
    rw [hsigma]
    rfl
  · simp [lower, lowerAfter, hc]

/-- A character that becomes one character is that character, or a member of a run. -/
theorem mapCase_eq_singleton {runs : Array CaseRun} {expansions : Array (Nat × List Nat)}
    (hexpansions : ∀ e ∈ expansions, e.2.length ≠ 1) {c l : Char}
    (h : mapCase runs expansions c = [l]) :
    c = l ∨ ∃ r ∈ runs, r.1 ≤ c.toNat ∧ c.toNat ≤ r.2.1 ∧
      Char.ofNat ((c.toNat : Int) + r.2.2.2).toNat = l := by
  rw [mapCase] at h
  cases hexpansion : expansions.find? (·.1 == c.toNat) with
  | some e =>
    simp only [hexpansion] at h
    -- An expansion has two characters at least.
    have hlength := congrArg List.length h
    rw [List.length_map] at hlength
    exact absurd hlength (hexpansions e (Array.mem_of_find?_eq_some hexpansion))
  | none =>
    simp only [hexpansion] at h
    split at h
    · rename_i a b step d hrun
      have hrange := Array.find?_some hrun
      simp only [Bool.and_eq_true, decide_eq_true_eq] at hrange
      exact .inr ⟨_, Array.mem_of_find?_eq_some hrun, hrange.1.1, hrange.1.2, List.singleton_inj.mp h⟩
    · exact .inl (List.singleton_inj.mp h)

end Text

namespace Switch

/-- The letters of the switches. -/
def letters : List Char := lettered.map (·.1)

/-- No run leads to a letter but the one of the capitals. -/
theorem eq_capital_of_run {r : Text.CaseRun} (hr : r ∈ Text.lowerRuns) {l : Char} (hl : l ∈ letters)
    (hfirst : (r.1 : Int) ≤ l.toNat - r.2.2.2) (hlast : (l.toNat : Int) - r.2.2.2 ≤ r.2.1) :
    (l.toNat : Int) - r.2.2.2 = l.toUpper.toNat := by
  have hall : (Text.lowerRuns.all fun r => letters.all fun l => decide
      ((r.1 : Int) ≤ l.toNat - r.2.2.2 → (l.toNat : Int) - r.2.2.2 ≤ r.2.1 →
        (l.toNat : Int) - r.2.2.2 = l.toUpper.toNat)) = true := by decide +kernel
  have hrow := List.all_eq_true.mp (Array.all_eq_true_iff_forall_mem.mp hall r hr) l hl
  exact of_decide_eq_true hrow hfirst hlast

/-- Only the letters themselves and their capitals have them as their lower case, among all
characters. -/
theorem lower_eq_letter_iff {l : Char} (hl : l ∈ letters) (c : Char) :
    Text.lower [c] = [l] ↔ c = l ∨ c = l.toUpper := by
  have hlower : letters.map Text.lowerChar = letters.map ([·]) := by decide +kernel
  have hcapital : letters.map (fun l => Text.lowerChar l.toUpper) = letters.map ([·]) := by
    decide +kernel
  -- `Char.ofNat` gives the character 0 for a number that is no character's.
  have hne : l.toNat ≠ 0 := by
    have hall : ∀ l ∈ letters, l.toNat ≠ 0 := by simp [letters, lettered]
    exact hall l hl
  rw [Text.lower_singleton]
  constructor
  · intro h
    obtain rfl | ⟨r, hr, hfirst, hlast, hmoved⟩ :=
      Text.mapCase_eq_singleton (by decide : ∀ e ∈ Text.lowerExpansions, e.2.length ≠ 1) h
    · exact .inl rfl
    · have hnumber : ((c.toNat : Int) + r.2.2.2).toNat = l.toNat := by
        have hvalid := congrArg Char.toNat hmoved
        rw [Char.toNat_ofNat] at hvalid
        split at hvalid
        · exact hvalid
        · exact absurd hvalid.symm hne
      have hupper := eq_capital_of_run hr hl (by omega) (by omega)
      right
      rw [← Char.toNat_inj]
      omega
  · rintro (rfl | rfl)
    · exact List.map_inj_left.mp hlower c hl
    · exact List.map_inj_left.mp hcapital l hl

end Switch

namespace Settings

/-! ## Reading letters one by one -/

/-- One step of reading: a letter turns its switch on, of any other character a warning is given. -/
def readLetter (r : Settings × List LogRecord) (c : Char) : Settings × List LogRecord :=
  match Switch.lettered.find? fun p => [p.1] == Text.lower [c] with
  | some p => (r.1.turnOn p.2, r.2)
  | none => (r.1, r.2 ++ [⟨.settings, .warning, unknownLetterText c⟩])

/-- Reads a text from left to right, from the default settings and an empty log on. -/
def readLetters (letters : String) : Settings × List LogRecord :=
  letters.toList.foldl readLetter (standard, [])

theorem switchOf?_eq (c : Char) :
    switchOf? c = (Switch.lettered.find? fun p => [p.1] == Text.lower [c]).map (·.2) := by
  rw [switchOf?, Text.lower_singleton]
  cases Text.lowerChar c with
  | nil => simp
  | cons l rest =>
    cases rest with
    | nil => simp [Switch.ofLetter?, lookup_eq_find?]
    | cons l' rest => simp

/-- Reading characters turns on the switches of the letters among them and warns of all others. -/
theorem foldl_readLetter (cs : List Char) (s : Settings) (log : List LogRecord) :
    cs.foldl readLetter (s, log) =
      ((cs.filterMap switchOf?).foldl turnOn s,
        log ++ (cs.filter fun c => (switchOf? c).isNone).map
          fun c => ⟨.settings, .warning, unknownLetterText c⟩) := by
  -- Each character changes either the settings or the log, so both are general in the induction.
  induction cs generalizing s log with
  | nil => simp
  | cons c cs ih =>
    rw [List.foldl_cons, readLetter]
    cases hfind : Switch.lettered.find? fun p => [p.1] == Text.lower [c] with
    | none =>
      have hswitch : switchOf? c = none := by rw [switchOf?_eq, hfind, Option.map_none]
      simp [ih, hswitch]
    | some p =>
      have hswitch : switchOf? c = some p.2 := by rw [switchOf?_eq, hfind, Option.map_some]
      simp [ih, hswitch]

theorem readLetters_eq (letters : String) :
    readLetters letters = (ofLetters letters, letterWarnings letters) :=
  foldl_readLetter letters.toList standard []

/-! ## Which switches a text names -/

/-- The lower case forms of the characters of a text; a form may have more than one character. -/
def lowerForms (text : String) : List (List Char) := text.toList.map fun c => Text.lower [c]

/-- Is the letter of a switch the lower case form of a character? -/
def Names (letters : String) (q : Switch) : Prop :=
  ∃ p ∈ Switch.lettered, p.2 = q ∧ [p.1] ∈ lowerForms letters

instance (letters : String) (q : Switch) : Decidable (Names letters q) :=
  inferInstanceAs (Decidable (∃ p ∈ Switch.lettered, p.2 = q ∧ [p.1] ∈ lowerForms letters))

theorem switchOf?_eq_some_iff {c : Char} {q : Switch} :
    switchOf? c = some q ↔ ∃ p ∈ Switch.lettered, p.2 = q ∧ Text.lower [c] = [p.1] := by
  have hfind : ∀ p ∈ Switch.lettered,
      (Switch.lettered.find? fun r => [r.1] == [p.1]) = some p := by decide
  rw [switchOf?_eq, Option.map_eq_some_iff]
  constructor
  · rintro ⟨p, hp, rfl⟩
    have hlower : [p.1] = Text.lower [c] := by simpa using List.find?_some hp
    exact ⟨p, List.mem_of_find?_eq_some hp, rfl, hlower.symm⟩
  · rintro ⟨p, hp, rfl, hlower⟩
    exact ⟨p, hlower ▸ hfind p hp, rfl⟩

theorem switchOf?_eq_none_iff {c : Char} :
    switchOf? c = none ↔ Text.lower [c] ∉ Switch.letters.map ([·]) := by
  rw [switchOf?_eq, Option.map_eq_none_iff, List.find?_eq_none, Switch.letters, List.map_map,
    List.mem_map]
  simp

theorem mem_switches_iff {letters : String} {q : Switch} :
    q ∈ letters.toList.filterMap switchOf? ↔ Names letters q := by
  simp only [List.mem_filterMap, switchOf?_eq_some_iff, Names, lowerForms, List.mem_map]
  constructor
  · rintro ⟨c, hc, p, hp, hq, hlower⟩
    exact ⟨p, hp, hq, c, hc, hlower⟩
  · rintro ⟨p, hp, hq, c, hc, hlower⟩
    exact ⟨c, hc, p, hp, hq, hlower⟩

/-- A letter has one switch and a switch has one letter. -/
theorem names_of_lettered {letters : String} {p : Char × Switch} (hp : p ∈ Switch.lettered) :
    Names letters p.2 ↔ [p.1] ∈ lowerForms letters := by
  have hinj : ∀ p ∈ Switch.lettered, ∀ r ∈ Switch.lettered, r.2 = p.2 → r.1 = p.1 := by decide
  constructor
  · rintro ⟨r, hr, hq, hmem⟩
    rwa [← hinj p hp r hr hq]
  · exact fun hmem => ⟨p, hp, rfl, hmem⟩

/-- A switch is named by its letter in either case, and by no other character. -/
theorem names_iff_mem_or {letters : String} {p : Char × Switch} (hp : p ∈ Switch.lettered) :
    Names letters p.2 ↔ p.1 ∈ letters.toList ∨ p.1.toUpper ∈ letters.toList := by
  simp only [names_of_lettered hp, lowerForms, List.mem_map,
    Switch.lower_eq_letter_iff (List.mem_map_of_mem hp)]
  constructor
  · rintro ⟨c, hc, rfl | rfl⟩
    · exact .inl hc
    · exact .inr hc
  · rintro (hc | hc)
    · exact ⟨_, hc, .inl rfl⟩
    · exact ⟨_, hc, .inr rfl⟩

theorem not_names_indexOverflow (letters : String) : ¬ Names letters .indexOverflow := by
  have hne : ∀ p ∈ Switch.lettered, p.2 ≠ .indexOverflow := by decide
  rintro ⟨p, hp, hq, -⟩
  exact hne p hp hq

/-! ## Turning switches on -/

theorem get_foldl_turnOn (qs : List Switch) (s : Settings) (q : Switch) :
    (qs.foldl turnOn s).get q = if q ∈ qs then .bool true else s.get q := by
  induction qs generalizing s with
  | nil => simp
  | cons r qs ih =>
    rw [List.foldl_cons, ih]
    by_cases hmem : q ∈ qs
    · simp [hmem]
    · by_cases hq : q = r
      · subst hq
        simp [turnOn]
      · simp [hmem, hq, turnOn, get_set_of_ne s _ (Ne.symm hq)]

theorem cycles_foldl_turnOn (qs : List Switch) (s : Settings) :
    (qs.foldl turnOn s).cycles = s.cycles := by
  induction qs generalizing s with
  | nil => rfl
  | cons q qs ih =>
    rw [List.foldl_cons, ih, turnOn, cycles_set]

/-- All switches are off at first. -/
theorem get_standard (q : Switch) : standard.get q = .bool false := by
  cases q <;> rfl

theorem get_ofLetters (letters : String) (q : Switch) :
    (ofLetters letters).get q = .bool (decide (Names letters q)) := by
  rw [ofLetters, withLetters, get_foldl_turnOn, get_standard]
  simp only [mem_switches_iff]
  split <;> simp [*]

theorem isOn_ofLetters (letters : String) (q : Switch) :
    (ofLetters letters).isOn q = decide (Names letters q) := by
  rw [isOn, get_ofLetters]
  rfl

theorem cycles_ofLetters (letters : String) : (ofLetters letters).cycles = standard.cycles :=
  cycles_foldl_turnOn _ _

/-! ## Letters of settings -/

theorem toList_letters (s : Settings) :
    s.letters.toList = (Switch.lettered.filter fun p => s.isOn p.2).map (·.1) := by
  rw [letters, String.toList_ofList]

theorem toList_letters_ofLetters (text : String) :
    (ofLetters text).letters.toList = Switch.letters.filter ([·] ∈ lowerForms text) := by
  rw [toList_letters, Switch.letters, List.filter_map]
  congr 1
  refine List.filter_congr fun p hp => ?_
  rw [isOn_ofLetters]
  exact decide_eq_decide.mpr (names_of_lettered hp)

/-- The letters of settings name the switches that are on. -/
theorem names_letters (s : Settings) {p : Char × Switch} (hp : p ∈ Switch.lettered) :
    Names s.letters p.2 ↔ s.isOn p.2 = true := by
  have hletter : ∀ r ∈ Switch.lettered, Text.lower [r.1] = [r.1] := fun r hr =>
    (Switch.lower_eq_letter_iff (List.mem_map_of_mem hr) r.1).mpr (.inl rfl)
  have hinj : ∀ p ∈ Switch.lettered, ∀ r ∈ Switch.lettered, r.1 = p.1 → r.2 = p.2 := by decide
  rw [names_of_lettered hp, lowerForms, toList_letters, List.map_map, List.mem_map]
  constructor
  · rintro ⟨r, hr, hlower⟩
    obtain ⟨hrow, hon⟩ := List.mem_filter.mp hr
    have heq : r.1 = p.1 := List.singleton_inj.mp ((hletter r hrow).symm.trans hlower)
    rwa [hinj p hp r hrow heq] at hon
  · exact fun hon => ⟨p, List.mem_filter.mpr ⟨hp, hon⟩, hletter p hp⟩

theorem get_ofLetters_letters {s : Settings} {p : Char × Switch} (hp : p ∈ Switch.lettered)
    (hswitch : ∃ b, s.get p.2 = .bool b) : (ofLetters s.letters).get p.2 = s.get p.2 := by
  obtain ⟨b, hb⟩ := hswitch
  have hon : s.isOn p.2 = b := by
    rw [isOn, hb]
    rfl
  simp [get_ofLetters, hb, names_letters s hp, hon]

/-! ## All about letters -/

/-- Read a text from left to right: each switch whose letter is the lower case form of a character is
on afterwards and each other one off, the number of instructions is the default, there is one warning
for each character that is no letter of a switch, in their order, and the letters of the settings are
the letters that the text has. So only the set of the lower case forms matters, and the letters of
settings give every switch again that has a letter and is on or off. -/
theorem letters_exact :
    (∀ text : String,
      readLetters text = (ofLetters text, letterWarnings text) ∧
      (∀ q, (ofLetters text).get q = .bool (decide (Names text q))) ∧
      (ofLetters text).get .indexOverflow = standard.get .indexOverflow ∧
      (ofLetters text).cycles = standard.cycles ∧
      letterWarnings text =
        (text.toList.filter fun c => Text.lower [c] ∉ Switch.letters.map ([·])).map (fun c =>
          ⟨.settings, .warning,
            "Ignoring unknown quirk letter " ++ Text.quoted (String.singleton c)⟩) ∧
      (ofLetters text).letters.toList = "jmsr".toList.filter ([·] ∈ lowerForms text)) ∧
    (∀ text text' : String, (∀ w, w ∈ lowerForms text ↔ w ∈ lowerForms text') →
      ofLetters text = ofLetters text') ∧
    ∀ s : Settings, ∀ p ∈ Switch.lettered, (∃ b, s.get p.2 = .bool b) →
      (ofLetters s.letters).get p.2 = s.get p.2 := by
  refine ⟨fun text => ⟨readLetters_eq text, get_ofLetters text, ?_, cycles_ofLetters text, ?_,
    toList_letters_ofLetters text⟩, fun text text' hforms => ?_,
    fun _ _ hp => get_ofLetters_letters hp⟩
  · rw [get_ofLetters, decide_eq_false (not_names_indexOverflow text), get_standard]
  · rw [letterWarnings, unknownLetters]
    congr 1
    refine List.filter_congr fun c _ => ?_
    rw [Bool.eq_iff_iff, Option.isNone_iff_eq_none, switchOf?_eq_none_iff, decide_eq_true_iff]
  · have hnames : ∀ q, Names text q ↔ Names text' q := fun q =>
      exists_congr fun p => and_congr_right fun _ => and_congr_right fun _ => hforms [p.1]
    refine ext_get (fun q => ?_) ?_
    · rw [get_ofLetters, get_ofLetters, decide_eq_decide.mpr (hnames q)]
    · rw [cycles_ofLetters, cycles_ofLetters]

/-- Settings with a switch that has a letter and one that has none. -/
def twoOn : Settings := (standard.turnOn .memory).turnOn .indexOverflow

/-- The same forms in another order, with capitals in the place of small letters and one letter
twice. -/
theorem letters_exact_of_forms :
    ofLetters "jMİ" = ofLetters "İmJj" ∧
    (ofLetters twoOn.letters).get .memory = .bool true ∧
    (ofLetters twoOn.letters).get .indexOverflow = .bool false := by
  obtain ⟨htext, hforms, hback⟩ := letters_exact
  have hcapital : ∀ l ∈ Switch.letters, Text.lower [l.toUpper] = Text.lower [l] := fun l hl =>
    ((Switch.lower_eq_letter_iff hl _).mpr (.inr rfl)).trans
      ((Switch.lower_eq_letter_iff hl l).mpr (.inl rfl)).symm
  have hj : Text.lower ['J'] = Text.lower ['j'] := hcapital 'j' (by decide)
  have hm : Text.lower ['M'] = Text.lower ['m'] := hcapital 'm' (by decide)
  refine ⟨hforms _ _ fun w => ?_, ?_, ?_⟩
  · simp only [lowerForms, String.reduceToList, List.map_cons, List.map_nil, List.mem_cons,
      List.not_mem_nil, or_false, hj, hm]
    -- What the forms are does not matter any more, only that they are the same ones.
    generalize Text.lower ['j'] = fj
    generalize Text.lower ['m'] = fm
    generalize Text.lower ['İ'] = fi
    grind
  · exact hback twoOn ('m', .memory) (by decide) ⟨true, rfl⟩
  · obtain ⟨-, -, hdefault, -⟩ := htext twoOn.letters
    exact hdefault

end Settings

end ChipEight
