import ChipEight.Json.Reader

/-!
# The grammar of JSON

Which texts stand for which values, said without a reader. A value has many texts: blanks between its
parts, characters of strings escaped or not, exponents of numbers, members of objects given twice.
The words for doubles that are no numbers are in the grammar, as they are in the format at hand.

A list of characters has no room for a half of a surrogate pair, so an escape by number stands for a
character, alone or with the escape after it.
-/

namespace ChipEight.Json

/-- Nothing but blanks. -/
def IsBlank (b : List Char) : Prop := ∀ c ∈ b, isSpace c = true

instance (b : List Char) : Decidable (IsBlank b) :=
  List.decidableBAll (fun c => isSpace c = true) b

/-! ## Numbers -/

/-- At least one decimal digit. -/
def IsDigits (ds : List Char) : Prop := ds ≠ [] ∧ ∀ d ∈ ds, isDigit d = true

/-- A whole number without needless zeros. -/
def IsWhole (ds : List Char) : Prop := ds = ['0'] ∨ IsDigits ds ∧ ds.head? ≠ some '0'

/-- A number with a sign. -/
def signed (negative : Bool) (n : Nat) : Int := if negative then -(n : Int) else n

/-- The minus sign of a negative number. -/
def minus (negative : Bool) : List Char := if negative then ['-'] else []

/-- The digits behind a point, and their text. -/
inductive SpellsFraction : List Char → List Char → Prop where
  | absent : SpellsFraction [] []
  | present {fs : List Char} (hfs : IsDigits fs) : SpellsFraction fs ('.' :: fs)

/-- The sign of an exponent, true for minus, and its text. -/
inductive SpellsSign : Bool → List Char → Prop where
  | absent : SpellsSign false []
  | plus : SpellsSign false ['+']
  | minus : SpellsSign true ['-']

/-- An exponent and its text. -/
inductive SpellsExponent : Option Int → List Char → Prop where
  | absent : SpellsExponent none []
  | present {mark : Char} {negative : Bool} {sign ds : List Char} (hmark : mark = 'e' ∨ mark = 'E')
      (hsign : SpellsSign negative sign) (hds : IsDigits ds) :
      SpellsExponent (some (signed negative (decimal ds))) (mark :: (sign ++ ds))

/-- Integers have no more digits than are converted; a fraction or an exponent makes a double. -/
inductive SpellsNumber : Number → List Char → Prop where
  | int {negative : Bool} {ds : List Char} (hds : IsWhole ds)
      (hlen : ds.length ≤ Numeral.maxDigits) :
      SpellsNumber (.int (signed negative (decimal ds))) (minus negative ++ ds)
  | float {negative : Bool} {ds fs fraction exponent : List Char} {e? : Option Int}
      (hds : IsWhole ds) (hfraction : SpellsFraction fs fraction)
      (hexponent : SpellsExponent e? exponent) (hne : fs ≠ [] ∨ e? ≠ none) :
      SpellsNumber
        (.float (Binary64.ofDecimal negative (decimal (ds ++ fs)) (e?.getD 0 - fs.length)))
        (minus negative ++ (ds ++ (fraction ++ exponent)))

/-! ## Strings -/

/-- A character of a string, as itself or escaped. -/
inductive SpellsChar : Char → List Char → Prop where
  | plain {c : Char} (hcontrol : 0x20 ≤ c.toNat) (hquote : c ≠ '"') (hslash : c ≠ '\\') :
      SpellsChar c [c]
  | letter {c x : Char} (hx : escaped? x = some c) : SpellsChar c ['\\', x]
  | unit {c d₁ d₂ d₃ d₄ : Char} (hunit : unit? d₁ d₂ d₃ d₄ = some c.toNat) :
      SpellsChar c ['\\', 'u', d₁, d₂, d₃, d₄]
  | pair {c d₁ d₂ d₃ d₄ e₁ e₂ e₃ e₄ : Char} {high low : Nat}
      (hhigh : unit? d₁ d₂ d₃ d₄ = some high) (hlow : unit? e₁ e₂ e₃ e₄ = some low)
      (hfirst : isHigh high = true) (hsecond : isLow low = true)
      (hc : c.toNat = 0x10000 + (high - 0xD800) * 0x400 + (low - 0xDC00)) :
      SpellsChar c ['\\', 'u', d₁, d₂, d₃, d₄, '\\', 'u', e₁, e₂, e₃, e₄]

/-- The characters of a string one after the other. -/
inductive SpellsChars : List Char → List Char → Prop where
  | nil : SpellsChars [] []
  | cons {c : Char} {cs s t : List Char} (hc : SpellsChar c s) (hcs : SpellsChars cs t) :
      SpellsChars (c :: cs) (s ++ t)

/-- A string in its quotes. -/
inductive SpellsString : String → List Char → Prop where
  | quoted {t : String} {s : List Char} (hs : SpellsChars t.toList s) :
      SpellsString t ('"' :: (s ++ ['"']))

/-! ## Values -/

/-- The values that are words. -/
def words : List (String × Json) := [
  ("null", null), ("true", bool true), ("false", bool false), ("NaN", num (.float (.nan false))),
  ("Infinity", num (.float (.infinite false))), ("-Infinity", num (.float (.infinite true)))]

/-- A value that is no container. -/
inductive SpellsScalar : Json → List Char → Prop where
  | word {w : String} {v : Json} (hw : (w, v) ∈ words) : SpellsScalar v w.toList
  | number {n : Number} {s : List Char} (hs : SpellsNumber n s) : SpellsScalar (num n) s
  | string {t : String} {s : List Char} (hs : SpellsString t s) : SpellsScalar (str t) s

/-- What a piece of a text can stand for. -/
inductive Phrase where
  | value (v : Json)
  /-- The items of a list, up to its closing bracket. -/
  | items (xs : List Json)
  /-- The members of an object, up to its closing brace, as they are listed. -/
  | members (ms : List (String × Json))

/-- Members set one after the other: of two of one name the last value counts. -/
def collect (before ms : List (String × Json)) : List (String × Json) :=
  ms.foldl (fun before m => insert before m.1 m.2) before

/-- The texts of a phrase. -/
inductive Spells : Phrase → List Char → Prop where
  | scalar {v : Json} {s : List Char} (hs : SpellsScalar v s) : Spells (.value v) s
  | emptyList {b : List Char} (hb : IsBlank b) : Spells (.value (arr [])) ('[' :: (b ++ [']']))
  | list {xs : List Json} {b s : List Char} (hb : IsBlank b) (hs : Spells (.items xs) s) :
      Spells (.value (arr xs)) ('[' :: (b ++ s))
  | emptyObject {b : List Char} (hb : IsBlank b) :
      Spells (.value (obj [])) ('\x7b' :: (b ++ ['\x7d']))
  | object {ms : List (String × Json)} {b s : List Char} (hb : IsBlank b)
      (hs : Spells (.members ms) s) :
      Spells (.value (obj (collect [] ms))) ('\x7b' :: (b ++ s))
  | lastItem {v : Json} {s b : List Char} (hs : Spells (.value v) s) (hb : IsBlank b) :
      Spells (.items [v]) (s ++ (b ++ [']']))
  | item {v : Json} {xs : List Json} {s b₁ b₂ t : List Char} (hs : Spells (.value v) s)
      (hb₁ : IsBlank b₁) (hb₂ : IsBlank b₂) (ht : Spells (.items xs) t) :
      Spells (.items (v :: xs)) (s ++ (b₁ ++ ',' :: (b₂ ++ t)))
  | lastMember {name : String} {v : Json} {k b₁ b₂ s b₃ : List Char} (hk : SpellsString name k)
      (hb₁ : IsBlank b₁) (hb₂ : IsBlank b₂) (hs : Spells (.value v) s) (hb₃ : IsBlank b₃) :
      Spells (.members [(name, v)]) (k ++ (b₁ ++ ':' :: (b₂ ++ (s ++ (b₃ ++ ['\x7d'])))))
  | member {name : String} {v : Json} {ms : List (String × Json)} {k b₁ b₂ s b₃ b₄ t : List Char}
      (hk : SpellsString name k) (hb₁ : IsBlank b₁) (hb₂ : IsBlank b₂) (hs : Spells (.value v) s)
      (hb₃ : IsBlank b₃) (hb₄ : IsBlank b₄) (ht : Spells (.members ms) t) :
      Spells (.members ((name, v) :: ms))
        (k ++ (b₁ ++ ':' :: (b₂ ++ (s ++ (b₃ ++ ',' :: (b₄ ++ t))))))

/-- A whole text: a value with blanks around it. -/
inductive SpellsDocument : Json → List Char → Prop where
  | padded {v : Json} {b₁ s b₂ : List Char} (hb₁ : IsBlank b₁) (hs : Spells (.value v) s)
      (hb₂ : IsBlank b₂) : SpellsDocument v (b₁ ++ (s ++ b₂))

/-- The text of a value is a whole text of it. -/
theorem Spells.document {v : Json} {s : List Char} (h : Spells (.value v) s) :
    SpellsDocument v s := by
  have hnone : IsBlank [] := nofun
  simpa using SpellsDocument.padded hnone h hnone

/-! ## Members -/

theorem insert_of_not_mem {before : List (String × Json)} {name : String}
    (h : name ∉ before.map (·.1)) (v : Json) : insert before name v = before ++ [(name, v)] := by
  induction before with
  | nil => rfl
  | cons m before ih =>
    rw [List.map_cons, List.mem_cons, not_or] at h
    have hname : ¬(m.1 == name) = true := fun heq => h.1 (beq_iff_eq.mp heq).symm
    rw [insert, if_neg hname, ih h.2, List.cons_append]

/-- Members with different names are kept as they are. -/
theorem collect_of_nodup {before ms : List (String × Json)}
    (h : ((before ++ ms).map (·.1)).Nodup) : collect before ms = before ++ ms := by
  induction ms generalizing before with
  | nil => exact (List.append_nil before).symm
  | cons m ms ih =>
    have hnew : m.1 ∉ before.map (·.1) := by
      rw [List.map_append, List.map_cons, List.nodup_append] at h
      exact fun hmem => h.2.2 _ hmem _ List.mem_cons_self rfl
    rw [List.append_cons] at h
    rw [collect, List.foldl_cons, insert_of_not_mem hnew, ← collect, ih h, ← List.append_cons]

theorem mem_names_insert {before : List (String × Json)} {name other : String} {v : Json} :
    other ∈ (insert before name v).map (·.1) ↔ other = name ∨ other ∈ before.map (·.1) := by
  induction before with
  | nil => simp [insert]
  | cons m before ih =>
    rw [insert]
    split
    case isTrue hname =>
      obtain rfl : m.1 = name := beq_iff_eq.mp hname
      simp
    case isFalse =>
      rw [List.map_cons, List.mem_cons, ih, List.map_cons, List.mem_cons, or_left_comm]

theorem nodup_names_insert {before : List (String × Json)} (h : (before.map (·.1)).Nodup)
    (name : String) (v : Json) : ((insert before name v).map (·.1)).Nodup := by
  induction before with
  | nil => exact List.nodup_cons.mpr ⟨List.not_mem_nil, List.nodup_nil⟩
  | cons m before ih =>
    rw [List.map_cons, List.nodup_cons] at h
    rw [insert]
    split
    case isTrue => exact List.nodup_cons.mpr h
    case isFalse hname =>
      rw [List.map_cons, List.nodup_cons, mem_names_insert, not_or]
      exact ⟨⟨fun heq => hname (beq_iff_eq.mpr heq), h.1⟩, ih h.2⟩

theorem nodup_names_collect {before : List (String × Json)} (h : (before.map (·.1)).Nodup)
    (ms : List (String × Json)) : ((collect before ms).map (·.1)).Nodup := by
  induction ms generalizing before with
  | nil => exact h
  | cons m ms ih => exact ih (nodup_names_insert h m.1 m.2)

/-- The members of an object have different names, however often its text lists them. -/
theorem SpellsDocument.nodup_names {ms : List (String × Json)} {s : List Char}
    (h : SpellsDocument (obj ms) s) : (ms.map (·.1)).Nodup := by
  obtain ⟨-, hs, -⟩ := h
  cases hs with
  | scalar hs =>
    cases hs with
    | word hw => simp [words] at hw
  | emptyObject => exact List.nodup_nil
  | object =>
    have hnone : (([] : List (String × Json)).map (·.1)).Nodup := List.nodup_nil
    exact nodup_names_collect hnone _

theorem lookup?_cons (m : String × Json) (ms : List (String × Json)) (name : String) :
    lookup? (m :: ms) name = if m.1 = name then some m.2 else lookup? ms name := by
  by_cases h : m.1 = name <;> simp [lookup?, h]

theorem lookup?_of_not_mem {ms : List (String × Json)} {name : String}
    (h : name ∉ ms.map (·.1)) : lookup? ms name = none := by
  induction ms with
  | nil => rfl
  | cons m ms ih =>
    rw [List.map_cons, List.mem_cons, not_or] at h
    rw [lookup?_cons, if_neg (Ne.symm h.1), ih h.2]

/-- A member is found by its name when no other one has it. -/
theorem lookup?_of_mem {ms : List (String × Json)} (h : (ms.map (·.1)).Nodup) {name : String}
    {v : Json} (hmem : (name, v) ∈ ms) : lookup? ms name = some v := by
  induction ms with
  | nil => cases hmem
  | cons m ms ih =>
    rw [List.map_cons, List.nodup_cons] at h
    rw [lookup?_cons]
    rcases List.mem_cons.mp hmem with rfl | hmem
    · rw [if_pos rfl]
    · have hname : name ∈ ms.map (·.1) := List.mem_map_of_mem hmem
      rw [if_neg, ih h.2 hmem]
      rintro rfl
      exact h.1 hname

end ChipEight.Json
