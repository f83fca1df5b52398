import ChipEight.Proofs.Json.Grammar

/-!
# The reader knows the grammar

Every text of a value is read as that value. Each function of the reader is given the text of its part
with something behind it, and gives the part and what is behind; for the parts that end where no
further character fits, the first character behind them must be one that can follow a value.
-/

namespace ChipEight.Json

/-! ## What comes next -/

/-- The next character, if there is one, does not go on with a run of some kind. -/
def Stops (p : Char → Bool) (s : List Char) : Prop := ∀ c ∈ s.head?, p c = false

/-- The characters that can be behind a value: blanks, a comma, and what closes a container. -/
def followers : List Char := [' ', '\n', '\t', '\r', ',', ']', '\x7d']

/-- A character that can be behind a value comes next, or nothing. -/
def Follows (s : List Char) : Prop := ∀ c ∈ s.head?, c ∈ followers

theorem Stops.takeWhile_append {p : Char → Bool} {s t : List Char} (ht : Stops p t)
    (hs : ∀ c ∈ s, p c = true) : (s ++ t).takeWhile p = s := by
  have hnone : t.takeWhile p = [] := by
    cases t with
    | nil => rfl
    | cons c t => rw [List.takeWhile_cons_of_neg (by rw [ht c rfl]; decide)]
  rw [List.takeWhile_append_of_pos hs, hnone, List.append_nil]

theorem Stops.dropWhile_append {p : Char → Bool} {s t : List Char} (ht : Stops p t)
    (hs : ∀ c ∈ s, p c = true) : (s ++ t).dropWhile p = t := by
  rw [List.dropWhile_append_of_pos hs]
  cases t with
  | nil => rfl
  | cons c t => rw [List.dropWhile_cons_of_neg (by rw [ht c rfl]; decide)]

/-- Blanks are skipped up to what is no blank. -/
theorem skip_append {b s : List Char} (hb : IsBlank b) (hs : Stops isSpace s) :
    skip (b ++ s) = s := hs.dropWhile_append hb

theorem mem_followers_of_isSpace {c : Char} (hc : isSpace c = true) : c ∈ followers := by
  have hblank : c ∈ [' ', '\n', '\t', '\r'] := by
    simpa [isSpace, or_assoc] using hc
  exact List.mem_append_left [',', ']', '\x7d'] hblank

theorem follows_nil : Follows [] := by
  rintro c ⟨⟩

theorem follows_cons {c : Char} (hc : c ∈ followers) (s : List Char) : Follows (c :: s) := by
  rintro _ ⟨⟩
  exact hc

theorem follows_append {b s : List Char} (hb : IsBlank b) (hs : Follows s) : Follows (b ++ s) := by
  cases b with
  | nil => exact hs
  | cons c b => exact follows_cons (mem_followers_of_isSpace (hb c List.mem_cons_self)) _

/-- No run of a number goes on with what can follow a value. -/
theorem Follows.stops {s : List Char} (hs : Follows s) {p : Char → Bool}
    (hp : followers.any p = false) : Stops p s :=
  fun c hc => Bool.eq_false_iff.mpr (List.any_eq_false.mp hp c (hs c hc))

theorem ne_of_isDigit {c x : Char} (hc : isDigit c = true) (hx : isDigit x = false) : c ≠ x := by
  rintro rfl
  rw [hx] at hc
  cases hc

/-! ## Numbers -/

theorem IsWhole.isDigits {ds : List Char} (h : IsWhole ds) : IsDigits ds := by
  rcases h with rfl | ⟨h, -⟩
  · exact ⟨List.cons_ne_nil _ _, List.forall_mem_singleton.mpr rfl⟩
  · exact h

theorem whole?_append {ds s : List Char} (hds : IsWhole ds) (hs : Stops isDigit s) :
    whole? (ds ++ s) = some (ds, s) := by
  rcases hds with rfl | ⟨⟨hne, hdigits⟩, hhead⟩
  · rfl
  · have htake := hs.takeWhile_append hdigits
    have hdrop := hs.dropWhile_append hdigits
    unfold whole?
    split
    case h_1 rest hzero =>
      cases ds with
      | nil => exact absurd rfl hne
      | cons d ds =>
        rw [List.cons_append, List.cons.injEq] at hzero
        exact absurd (congrArg some hzero.1) hhead
    case h_2 =>
      simp only [htake, hdrop, List.isEmpty_iff, hne, if_false]

theorem fractionPart_append {fs fraction s : List Char} (h : SpellsFraction fs fraction)
    (hs : Stops isDigit s) (hpoint : Stops (· == '.') s) : fractionPart (fraction ++ s) = (fs, s) := by
  cases h with
  | absent =>
    rw [List.nil_append]
    unfold fractionPart
    split
    case h_1 => exact absurd (hpoint '.' rfl) (by decide)
    case h_2 => rfl
  | present hfs =>
    simp only [List.cons_append, fractionPart, hs.takeWhile_append hfs.2,
      hs.dropWhile_append hfs.2, List.isEmpty_iff, hfs.1, if_false]

theorem splitSign_append {negative : Bool} {sign ds : List Char} (h : SpellsSign negative sign)
    (hds : IsDigits ds) (s : List Char) :
    Numeral.splitSign (sign ++ (ds ++ s)) = (negative, ds ++ s) := by
  obtain ⟨hne, hdigits⟩ := hds
  cases h with
  | plus => rfl
  | minus => rfl
  | absent =>
    cases ds with
    | nil => exact absurd rfl hne
    | cons d ds =>
      have hd := hdigits d List.mem_cons_self
      rw [List.nil_append, List.cons_append]
      unfold Numeral.splitSign
      split
      case h_1 heq => exact absurd (List.head_eq_of_cons_eq heq) (ne_of_isDigit hd (by decide))
      case h_2 heq => exact absurd (List.head_eq_of_cons_eq heq) (ne_of_isDigit hd (by decide))
      case h_3 => rfl

theorem exponentPart_append {e? : Option Int} {exponent s : List Char}
    (h : SpellsExponent e? exponent) (hs : Stops isDigit s)
    (hmark : Stops (fun c => c == 'e' || c == 'E') s) :
    exponentPart (exponent ++ s) = (e?, s) := by
  cases h with
  | absent =>
    cases s with
    | nil => rfl
    | cons c s =>
      have hc := hmark c rfl
      simp only [List.nil_append, exponentPart, hc, Bool.false_eq_true, if_false]
  | present hmark' hsign hds =>
    have hfound : ∀ c, c = 'e' ∨ c = 'E' → (c == 'e' || c == 'E') = true := by
      rintro c (rfl | rfl) <;> rfl
    simp only [List.cons_append, List.append_assoc, exponentPart, hfound _ hmark', if_true,
      splitSign_append hsign hds, hs.takeWhile_append hds.2, hs.dropWhile_append hds.2,
      List.isEmpty_iff, hds.1, if_false, signed]

/-- The next character goes on with neither of the parts of a number. -/
theorem stops_fraction {fs fraction s : List Char} (h : SpellsFraction fs fraction)
    {p : Char → Bool} (hp : p '.' = false) (hs : Stops p s) : Stops p (fraction ++ s) := by
  cases h with
  | absent => exact hs
  | present hfs =>
    rintro c ⟨⟩
    exact hp

theorem stops_exponent {e? : Option Int} {exponent s : List Char} (h : SpellsExponent e? exponent)
    {p : Char → Bool} (hp : p 'e' = false) (hp' : p 'E' = false) (hs : Stops p s) :
    Stops p (exponent ++ s) := by
  cases h with
  | absent => exact hs
  | present hmark hsign hds =>
    rintro c ⟨⟩
    rcases hmark with rfl | rfl
    · exact hp
    · exact hp'

theorem unsigned?_int {negative : Bool} {ds s : List Char} (hds : IsWhole ds)
    (hlen : ds.length ≤ Numeral.maxDigits) (hs : Follows s) :
    unsigned? negative (ds ++ s) = some (.ok (int (signed negative (decimal ds)), s)) := by
  have hdigit := hs.stops (p := isDigit) (by decide)
  have hpoint := hs.stops (p := (· == '.')) (by decide)
  have hmark := hs.stops (p := fun c => c == 'e' || c == 'E') (by decide)
  have hfraction := fractionPart_append .absent hdigit hpoint
  have hexponent := exponentPart_append .absent hdigit hmark
  rw [List.nil_append] at hfraction hexponent
  simp only [unsigned?, whole?_append hds hdigit, hfraction, hexponent, List.isEmpty_nil,
    Option.isNone_none, Bool.and_self, if_true, Nat.not_lt.mpr hlen, if_false, signed]

theorem unsigned?_float {negative : Bool} {ds fs fraction exponent s : List Char} {e? : Option Int}
    (hds : IsWhole ds) (hfraction : SpellsFraction fs fraction)
    (hexponent : SpellsExponent e? exponent) (hne : fs ≠ [] ∨ e? ≠ none) (hs : Follows s) :
    unsigned? negative (ds ++ (fraction ++ (exponent ++ s))) =
      some (.ok (num (.float (Binary64.ofDecimal negative (decimal (ds ++ fs))
        (e?.getD 0 - fs.length))), s)) := by
  have hdigit := hs.stops (p := isDigit) (by decide)
  have hpoint := hs.stops (p := (· == '.')) (by decide)
  have hmark := hs.stops (p := fun c => c == 'e' || c == 'E') (by decide)
  have hdigit' := stops_exponent hexponent (by decide) (by decide) hdigit
  have hwhole := whole?_append hds (stops_fraction hfraction (by decide) hdigit')
  have hafterWhole := fractionPart_append hfraction hdigit'
    (stops_exponent hexponent (by decide) (by decide) hpoint)
  have hafterFraction := exponentPart_append hexponent hdigit hmark
  have hdouble : (fs.isEmpty && e?.isNone) = false := by
    rcases hne with hne | hne
    · simp [hne]
    · cases e? with
      | none => exact absurd rfl hne
      | some e => simp
  simp only [unsigned?, hwhole, hafterWhole, hafterFraction, hdouble, Bool.false_eq_true, if_false]

/-! ## Strings -/

theorem not_isHigh_toNat (c : Char) : isHigh c.toNat = false := by
  have hvalid : c.toNat < 0xD800 ∨ 0xDFFF < c.toNat ∧ c.toNat < 0x110000 := c.valid
  simp only [isHigh, Bool.and_eq_false_iff, decide_eq_false_iff_not]
  omega

theorem not_isLow_toNat (c : Char) : isLow c.toNat = false := by
  have hvalid : c.toNat < 0xD800 ∨ 0xDFFF < c.toNat ∧ c.toNat < 0x110000 := c.valid
  simp only [isLow, Bool.and_eq_false_iff, decide_eq_false_iff_not]
  omega

theorem joinUnits_char (c : Char) (ns : List Nat) : joinUnits (c.toNat :: ns) = c :: joinUnits ns := by
  cases ns <;> simp [joinUnits, not_isHigh_toNat, not_isLow_toNat]

theorem joinUnits_pair {high low : Nat} (hhigh : isHigh high = true) (hlow : isLow low = true)
    (ns : List Nat) :
    joinUnits (high :: low :: ns) =
      Char.ofNat (0x10000 + (high - 0xD800) * 0x400 + (low - 0xDC00)) :: joinUnits ns := by
  rw [joinUnits, hhigh, hlow, Bool.and_self, if_pos rfl]

theorem units_plain {c : Char} (hcontrol : 0x20 ≤ c.toNat) (hquote : c ≠ '"') (hslash : c ≠ '\\')
    (opening s : List Char) : units opening (c :: s) = consUnit c.toNat (units opening s) := by
  rw [units, if_neg (Nat.not_lt.mpr hcontrol)]
  · exact hquote
  · exact fun _ _ _ _ _ h _ => hslash h
  · exact fun _ _ h _ => hslash h
  · exact fun h _ => hslash h

theorem units_letter {c x : Char} (hx : escaped? x = some c) (opening s : List Char) :
    units opening ('\\' :: x :: s) = consUnit c.toNat (units opening s) := by
  rw [units, hx]
  rintro _ _ _ _ _ rfl -
  cases hx

theorem units_unit {d₁ d₂ d₃ d₄ : Char} {n : Nat} (hunit : unit? d₁ d₂ d₃ d₄ = some n)
    (opening : List Char) {s : List Char} (hs : s ≠ []) :
    units opening ('\\' :: 'u' :: d₁ :: d₂ :: d₃ :: d₄ :: s) = consUnit n (units opening s) := by
  have hempty : s.isEmpty = false := by
    rw [← Bool.not_eq_true, List.isEmpty_iff]
    exact hs
  rw [units, hunit, hempty]

theorem foldr_consUnit (ns ms : List Nat) (s : List Char) :
    ns.foldr consUnit (.ok (ms, s)) = .ok (ns ++ ms, s) := by
  induction ns with
  | nil => rfl
  | cons n ns ih => rw [List.foldr_cons, ih, consUnit, List.cons_append]

/-- The units of one character. -/
theorem SpellsChar.exists_units {c : Char} {s : List Char} (h : SpellsChar c s) :
    ∃ ns : List Nat,
      (∀ opening t, t ≠ [] → units opening (s ++ t) = ns.foldr consUnit (units opening t)) ∧
      ∀ ms, joinUnits (ns ++ ms) = c :: joinUnits ms := by
  cases h with
  | plain hcontrol hquote hslash =>
    exact ⟨[c.toNat], fun opening t _ => units_plain hcontrol hquote hslash opening t,
      joinUnits_char c⟩
  | letter hx => exact ⟨[c.toNat], fun opening t _ => units_letter hx opening t, joinUnits_char c⟩
  | unit hunit =>
    exact ⟨[c.toNat], fun opening t ht => units_unit hunit opening ht, joinUnits_char c⟩
  | @pair _ _ _ _ _ _ _ _ high low hhigh hlow hfirst hsecond hc =>
    refine ⟨[high, low], fun opening t ht => ?_, fun ms => ?_⟩
    · exact (units_unit hhigh opening (List.cons_ne_nil _ _)).trans
        (congrArg _ (units_unit hlow opening ht))
    · rw [← c.ofNat_toNat, hc]
      exact joinUnits_pair hfirst hsecond ms

/-- The units of a string up to its closing quote. -/
theorem SpellsChars.exists_units {cs s : List Char} (h : SpellsChars cs s) :
    ∃ ns : List Nat,
      (∀ opening t, units opening (s ++ '"' :: t) = .ok (ns, t)) ∧ joinUnits ns = cs := by
  induction h with
  | nil => exact ⟨[], fun _ _ => rfl, rfl⟩
  | @cons c cs s t hc hcs ih =>
    obtain ⟨ns, hread, hjoin⟩ := hc.exists_units
    obtain ⟨ms, hreads, hjoins⟩ := ih
    refine ⟨ns ++ ms, fun opening u => ?_, by rw [hjoin, hjoins]⟩
    have hne : t ++ '"' :: u ≠ [] := List.append_ne_nil_of_right_ne_nil _ (List.cons_ne_nil _ _)
    rw [List.append_assoc, hread opening _ hne, hreads, foldr_consUnit]

theorem string_append {t : String} {s : List Char} (h : SpellsChars t.toList s)
    (opening rest : List Char) : string opening (s ++ '"' :: rest) = .ok (t, rest) := by
  obtain ⟨ns, hread, hjoin⟩ := h.exists_units
  simp only [string, hread, hjoin, String.ofList_toList]

/-! ## Scalars -/

theorem scalar_word {w : String} {v : Json} (hw : (w, v) ∈ words) (s : List Char) :
    scalar (w.toList ++ s) = .ok (v, s) := by
  simp only [words, List.mem_cons, Prod.mk.injEq, List.not_mem_nil, or_false] at hw
  rcases hw with ⟨rfl, rfl⟩ | ⟨rfl, rfl⟩ | ⟨rfl, rfl⟩ | ⟨rfl, rfl⟩ | ⟨rfl, rfl⟩ | ⟨rfl, rfl⟩
  all_goals rfl

theorem head_ne_of_isDigit {d x : Char} (hd : isDigit d = true) (hx : isDigit x = false)
    {s t : List Char} : d :: s ≠ x :: t :=
  fun h => ne_of_isDigit hd hx (List.head_eq_of_cons_eq h)

theorem scalar_of_digit {d : Char} (hd : isDigit d = true) (s : List Char) :
    scalar (d :: s) = (unsigned? false (d :: s)).getD (.error (.expectedValue, d :: s)) := by
  rw [scalar]
  all_goals exact fun _ => head_ne_of_isDigit hd (by decide)

theorem scalar_of_minus {d : Char} (hd : isDigit d = true) (s : List Char) :
    scalar ('-' :: d :: s) =
      (unsigned? true (d :: s)).getD (.error (.expectedValue, '-' :: d :: s)) := by
  rw [scalar]
  exact fun _ => head_ne_of_isDigit hd (by decide)

/-- A sign and digits are read as a number. -/
theorem scalar_of_isDigits {negative : Bool} {ds : List Char} (hds : IsDigits ds) (s : List Char)
    {v : Json} {rest : List Char} (hread : unsigned? negative (ds ++ s) = some (.ok (v, rest))) :
    scalar (minus negative ++ (ds ++ s)) = .ok (v, rest) := by
  obtain ⟨hne, hdigits⟩ := hds
  obtain ⟨d, ds, rfl⟩ := List.exists_cons_of_ne_nil hne
  have hd := hdigits d List.mem_cons_self
  cases negative with
  | false => exact (scalar_of_digit hd (ds ++ s)).trans (by rw [← List.cons_append, hread]; rfl)
  | true => exact (scalar_of_minus hd (ds ++ s)).trans (by rw [← List.cons_append, hread]; rfl)

theorem scalar_append {v : Json} {s rest : List Char} (h : SpellsScalar v s) (hrest : Follows rest) :
    scalar (s ++ rest) = .ok (v, rest) := by
  cases h with
  | word hw => exact scalar_word hw rest
  | number hs =>
    cases hs with
    | int hds hlen =>
      rw [List.append_assoc]
      exact scalar_of_isDigits hds.isDigits rest (unsigned?_int hds hlen hrest)
    | float hds hfraction hexponent hne =>
      simp only [List.append_assoc]
      exact scalar_of_isDigits hds.isDigits _ (unsigned?_float hds hfraction hexponent hne hrest)
  | string hs =>
    cases hs with
    | quoted hs =>
      rw [List.cons_append, List.append_assoc, List.singleton_append, scalar, string_append hs]

/-! ## First characters -/

/-- The next character is there. It could not be behind a value, and it is no byte order mark. -/
def Begins (s : List Char) : Prop := ∃ c t, s = c :: t ∧ c ∉ '\uFEFF' :: followers

theorem Begins.append {s : List Char} (hs : Begins s) (t : List Char) : Begins (s ++ t) := by
  obtain ⟨c, u, rfl, hc⟩ := hs
  exact ⟨c, u ++ t, rfl, hc⟩

theorem Begins.stops {s : List Char} (hs : Begins s) : Stops isSpace s := by
  obtain ⟨c, t, rfl, hc⟩ := hs
  rintro _ ⟨⟩
  exact Bool.eq_false_iff.mpr fun hblank =>
    hc (List.mem_cons_of_mem _ (mem_followers_of_isSpace hblank))

/-- A scalar does not look like a container either. -/
theorem SpellsScalar.exists_cons {v : Json} {s : List Char} (h : SpellsScalar v s) :
    ∃ c t, s = c :: t ∧ c ∉ '[' :: '\x7b' :: '\uFEFF' :: followers := by
  have hdigit : ('[' :: '\x7b' :: '\uFEFF' :: followers).any isDigit = false := by decide
  have hsigned : ∀ (negative : Bool) (ds t : List Char), IsDigits ds →
      ∃ c u, minus negative ++ (ds ++ t) = c :: u ∧ c ∉ '[' :: '\x7b' :: '\uFEFF' :: followers := by
    intro negative ds t ⟨hne, hdigits⟩
    cases negative with
    | true => exact ⟨'-', ds ++ t, rfl, by decide⟩
    | false =>
      obtain ⟨d, ds, rfl⟩ := List.exists_cons_of_ne_nil hne
      refine ⟨d, ds ++ t, rfl, fun hmem => ?_⟩
      exact List.any_eq_false.mp hdigit d hmem (hdigits d List.mem_cons_self)
  cases h with
  | word hw =>
    simp only [words, List.mem_cons, Prod.mk.injEq, List.not_mem_nil, or_false] at hw
    rcases hw with ⟨rfl, rfl⟩ | ⟨rfl, rfl⟩ | ⟨rfl, rfl⟩ | ⟨rfl, rfl⟩ | ⟨rfl, rfl⟩ | ⟨rfl, rfl⟩
    all_goals exact ⟨_, _, rfl, by decide⟩
  | number hs =>
    cases hs with
    | @int negative ds hds hlen =>
      rw [← List.append_nil ds]
      exact hsigned negative ds [] hds.isDigits
    | float hds hfraction hexponent hne => exact hsigned _ _ _ hds.isDigits
  | string hs =>
    cases hs with
    | quoted hs => exact ⟨'"', _, rfl, by decide⟩

theorem Spells.begins {p : Phrase} {s : List Char} (h : Spells p s) : Begins s := by
  have hstring : ∀ {t : String} {k : List Char}, SpellsString t k → Begins k := by
    rintro _ _ ⟨hs⟩
    exact ⟨'"', _, rfl, by decide⟩
  induction h with
  | scalar hs =>
    obtain ⟨c, t, rfl, hc⟩ := hs.exists_cons
    exact ⟨c, t, rfl, fun hmem => hc (List.mem_cons_of_mem _ (List.mem_cons_of_mem _ hmem))⟩
  | emptyList | list => exact ⟨'[', _, rfl, by decide⟩
  | emptyObject | object => exact ⟨'\x7b', _, rfl, by decide⟩
  | lastItem _ _ ih => exact ih.append _
  | item _ _ _ _ ih _ => exact ih.append _
  | lastMember hk | member hk => exact (hstring hk).append _

/-! ## Containers -/

/-- Blanks are skipped up to a character that is none. -/
theorem skip_append_cons {b : List Char} (hb : IsBlank b) {c : Char} (hc : isSpace c = false)
    (s : List Char) : skip (b ++ c :: s) = c :: s := by
  refine skip_append hb ?_
  rintro _ ⟨⟩
  exact hc

theorem skip_append_begins {b s : List Char} (hb : IsBlank b) (hs : Begins s) (t : List Char) :
    skip (b ++ (s ++ t)) = s ++ t := skip_append hb (hs.append t).stops

/-- The reader takes a text for what it stands for, with any fuel not below its length. -/
def Reads : Phrase → List Char → Prop
  | .value v, s => ∀ fuel rest, s.length ≤ fuel → Follows rest → value fuel (s ++ rest) = .ok (v, rest)
  | .items xs, s => ∀ fuel rest, s.length ≤ fuel → items fuel (s ++ rest) = .ok (xs, rest)
  | .members ms, s => ∀ fuel before rest, s.length ≤ fuel →
      members fuel before (s ++ rest) = .ok (collect before ms, rest)

variable {b b₁ b₂ b₃ b₄ s t : List Char} {v : Json} {xs : List Json} {ms : List (String × Json)}
  {name : String}

-- Each proof below takes the reader through one call.
attribute [local simp] value items members

theorem reads_scalar (hs : SpellsScalar v s) : Reads (.value v) s := by
  intro fuel rest hfuel hrest
  obtain ⟨c, t, rfl, hc⟩ := hs.exists_cons
  cases fuel with
  | zero => cases hfuel
  | succ fuel =>
    rw [List.cons_append, value, ← List.cons_append, scalar_append hs hrest]
    · rintro _ ⟨⟩
      exact hc List.mem_cons_self
    · rintro _ ⟨⟩
      exact hc (List.mem_cons_of_mem _ List.mem_cons_self)

theorem reads_emptyList (hb : IsBlank b) : Reads (.value (arr [])) ('[' :: (b ++ [']'])) := by
  intro fuel rest hfuel hrest
  cases fuel with
  | zero => cases hfuel
  | succ fuel =>
    simp [skip_append_cons hb (c := ']') rfl]

theorem reads_emptyObject (hb : IsBlank b) :
    Reads (.value (obj [])) ('\x7b' :: (b ++ ['\x7d'])) := by
  intro fuel rest hfuel hrest
  cases fuel with
  | zero => cases hfuel
  | succ fuel =>
    simp [skip_append_cons hb (c := '\x7d') rfl]

theorem reads_list (hb : IsBlank b) (hbegins : Begins s) (hs : Reads (.items xs) s) :
    Reads (.value (arr xs)) ('[' :: (b ++ s)) := by
  intro fuel rest hfuel hrest
  cases fuel with
  | zero => cases hfuel
  | succ fuel =>
    rw [List.length_cons, List.length_append] at hfuel
    rw [List.cons_append, List.append_assoc, value, skip_append_begins hb hbegins]
    split
    case h_1 left heq =>
      -- The list is not empty, so no bracket closes it here.
      obtain ⟨c, t, rfl, hc⟩ := hbegins
      obtain rfl := List.head_eq_of_cons_eq heq
      exact absurd (by decide) hc
    case h_2 => rw [hs fuel rest (by omega)]

theorem reads_object (hb : IsBlank b) (hbegins : Begins s) (hs : Reads (.members ms) s) :
    Reads (.value (obj (collect [] ms))) ('\x7b' :: (b ++ s)) := by
  intro fuel rest hfuel hrest
  cases fuel with
  | zero => cases hfuel
  | succ fuel =>
    rw [List.length_cons, List.length_append] at hfuel
    rw [List.cons_append, List.append_assoc, value, skip_append_begins hb hbegins]
    split
    case h_1 left heq =>
      obtain ⟨c, t, rfl, hc⟩ := hbegins
      obtain rfl := List.head_eq_of_cons_eq heq
      exact absurd (by decide) hc
    case h_2 => rw [hs fuel [] rest (by omega)]

theorem reads_lastItem (hs : Reads (.value v) s) (hb : IsBlank b) :
    Reads (.items [v]) (s ++ (b ++ [']'])) := by
  intro fuel rest hfuel
  rw [List.length_append, List.length_append, List.length_singleton] at hfuel
  cases fuel with
  | zero => omega
  | succ fuel =>
    have hfollows : Follows (b ++ ']' :: rest) := follows_append hb (follows_cons (by decide) _)
    simp [hs fuel _ (by omega) hfollows, skip_append_cons hb (c := ']') rfl]

theorem reads_item (hs : Reads (.value v) s) (hb₁ : IsBlank b₁) (hb₂ : IsBlank b₂)
    (hbegins : Begins t) (ht : Reads (.items xs) t) :
    Reads (.items (v :: xs)) (s ++ (b₁ ++ ',' :: (b₂ ++ t))) := by
  intro fuel rest hfuel
  rw [List.length_append, List.length_append, List.length_cons, List.length_append] at hfuel
  cases fuel with
  | zero => omega
  | succ fuel =>
    have hfollows : Follows (b₁ ++ ',' :: (b₂ ++ (t ++ rest))) :=
      follows_append hb₁ (follows_cons (by decide) _)
    simp [hs fuel _ (by omega) hfollows, skip_append_cons hb₁ (c := ',') rfl,
      skip_append_begins hb₂ hbegins, ht fuel rest (by omega)]

theorem reads_lastMember {k : List Char} (hk : SpellsString name k) (hb₁ : IsBlank b₁)
    (hb₂ : IsBlank b₂) (hbegins : Begins s) (hs : Reads (.value v) s) (hb₃ : IsBlank b₃) :
    Reads (.members [(name, v)])
      (k ++ (b₁ ++ ':' :: (b₂ ++ (s ++ (b₃ ++ ['\x7d']))))) := by
  intro fuel before rest hfuel
  simp only [List.length_append, List.length_cons] at hfuel
  cases fuel with
  | zero => omega
  | succ fuel =>
    obtain ⟨hk⟩ := hk
    have hfollows : Follows (b₃ ++ '\x7d' :: rest) :=
      follows_append hb₃ (follows_cons (by decide) _)
    simp only [List.append_assoc, List.cons_append, List.nil_append, members, string_append hk,
      skip_append_cons hb₁ (c := ':') rfl, skip_append_begins hb₂ hbegins,
      hs fuel _ (by omega) hfollows, skip_append_cons hb₃ (c := '\x7d') rfl]
    rfl

theorem reads_member {k : List Char} (hk : SpellsString name k) (hb₁ : IsBlank b₁)
    (hb₂ : IsBlank b₂) (hbegins : Begins s) (hs : Reads (.value v) s) (hb₃ : IsBlank b₃)
    (hb₄ : IsBlank b₄) (hbegins' : Begins t) (ht : Reads (.members ms) t) :
    Reads (.members ((name, v) :: ms))
      (k ++ (b₁ ++ ':' :: (b₂ ++ (s ++ (b₃ ++ ',' :: (b₄ ++ t)))))) := by
  intro fuel before rest hfuel
  simp only [List.length_append, List.length_cons] at hfuel
  cases fuel with
  | zero => omega
  | succ fuel =>
    obtain ⟨hk⟩ := hk
    have hfollows : Follows (b₃ ++ ',' :: (b₄ ++ (t ++ rest))) :=
      follows_append hb₃ (follows_cons (by decide) _)
    simp only [List.append_assoc, List.cons_append, List.nil_append, members, string_append hk,
      skip_append_cons hb₁ (c := ':') rfl, skip_append_begins hb₂ hbegins,
      hs fuel _ (by omega) hfollows, skip_append_cons hb₃ (c := ',') rfl,
      skip_append_begins hb₄ hbegins', ht fuel _ rest (by omega)]
    rfl

theorem Spells.reads {p : Phrase} (h : Spells p s) : Reads p s := by
  induction h with
  | scalar hs => exact reads_scalar hs
  | emptyList hb => exact reads_emptyList hb
  | list hb hs ih => exact reads_list hb hs.begins ih
  | emptyObject hb => exact reads_emptyObject hb
  | object hb hs ih => exact reads_object hb hs.begins ih
  | lastItem _ hb ih => exact reads_lastItem ih hb
  | item _ hb₁ hb₂ ht ihs iht => exact reads_item ihs hb₁ hb₂ ht.begins iht
  | lastMember hk hb₁ hb₂ hs hb₃ ih => exact reads_lastMember hk hb₁ hb₂ hs.begins ih hb₃
  | member hk hb₁ hb₂ hs hb₃ hb₄ ht ihs iht =>
    exact reads_member hk hb₁ hb₂ hs.begins ihs hb₃ hb₄ ht.begins iht

/-! ## Whole texts -/

theorem document_of_spells (h : SpellsDocument v s) : document s = .ok v := by
  cases h with
  | @padded b₁ s b₂ hb₁ hs hb₂ =>
    have hfollows : Follows b₂ := by
      rw [← List.append_nil b₂]
      exact follows_append hb₂ follows_nil
    have hvalue := hs.reads (2 * (b₁ ++ (s ++ b₂)).length + 2) b₂
      (by rw [List.length_append, List.length_append]; omega) hfollows
    have hrest : skip b₂ = [] := by
      rw [← List.append_nil b₂]
      exact skip_append hb₂ nofun
    unfold document
    split
    case h_1 rest heq =>
      -- Neither a blank nor the first character of a value is a byte order mark.
      cases b₁ with
      | nil =>
        obtain ⟨c, t, hcons, hc⟩ := hs.begins.append b₂
        obtain rfl := List.head_eq_of_cons_eq (hcons.symm.trans heq)
        exact absurd List.mem_cons_self hc
      | cons c b₁ =>
        obtain rfl := List.head_eq_of_cons_eq heq
        exact absurd (hb₁ _ List.mem_cons_self) (by decide)
    case h_2 => simp only [skip_append_begins hb₁ hs.begins, hvalue, hrest]

/-- A text of a value is read as this value. -/
theorem read_of_spells {text : String} (h : SpellsDocument v text.toList) : read text = .ok v := by
  rw [read, document_of_spells h]

end ChipEight.Json
