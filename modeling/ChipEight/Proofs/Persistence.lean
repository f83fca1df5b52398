import ChipEight.Proofs.Endings
import ChipEight.Proofs.Json.LineEnds
import ChipEight.Proofs.Json.Writing
import ChipEight.Proofs.Utf8

/-!
# Settings outlive a document

What is saved is loaded again, and so is every text of an object of settings, however it is laid out:
`Lists` says which settings the members of an object stand for. A name of no setting is refused.
-/

namespace ChipEight

namespace Settings

/-! ## Names of settings -/

/-- The names of the settings. -/
def names : List String := standard.fields.map (·.1)

theorem name_ne_cyclesName (q : Switch) : q.name ≠ cyclesName := by
  cases q <;> decide

theorem isKnown_iff (name : String) : isKnown name = true ↔ name ∈ names := by
  have hnames : names = [Switch.vfReset.name, Switch.memory.name, Switch.shifting.name,
    Switch.jumping.name, cyclesName, Switch.indexOverflow.name] := rfl
  rw [isKnown, Bool.or_eq_true, beq_iff_eq, Switch.ofName?, List.find?_isSome, hnames]
  simp only [Switch.all, List.mem_cons, List.not_mem_nil, or_false, beq_iff_eq,
    exists_eq_or_imp, exists_eq_left, eq_comm (a := name)]
  grind

/-! ## Names of no setting -/

theorem nodup_eraseDups {α : Type} [BEq α] [LawfulBEq α] (xs : List α) : xs.eraseDups.Nodup := by
  cases xs with
  | nil => exact List.nodup_nil
  | cons x xs =>
    rw [List.eraseDups_cons, List.nodup_cons]
    refine ⟨?_, nodup_eraseDups _⟩
    simp [List.mem_eraseDups]
termination_by xs.length
decreasing_by exact Nat.lt_succ_of_le (List.length_filter_le _ _)

theorem mem_unknownNames {given : List String} {name : String} :
    name ∈ unknownNames given ↔ name ∈ given ∧ name ∉ names := by
  rw [unknownNames, List.mem_mergeSort, List.mem_eraseDups, List.mem_filter, ← isKnown_iff]
  simp

/-- The names are in order, and none is there twice. -/
theorem pairwise_unknownNames (given : List String) : (unknownNames given).Pairwise (· < ·) := by
  -- Sorting gives an order in which equal names might meet, but each name was kept only once.
  have hnodup : (unknownNames given).Nodup :=
    (List.mergeSort_perm _ _).nodup_iff.mpr (nodup_eraseDups _)
  have hsorted : (unknownNames given).Pairwise fun a b => (!decide (b < a)) = true := by
    refine List.pairwise_mergeSort (fun a b c => ?_) (fun a b => ?_) _
    · simp only [Bool.not_eq_true', decide_eq_false_iff_not, String.not_lt]
      exact String.le_trans
    · simp only [Bool.or_eq_true, Bool.not_eq_true', decide_eq_false_iff_not, String.not_lt]
      exact String.le_total a b
  refine (hsorted.and hnodup).imp fun {a b} ⟨hle, hne⟩ => ?_
  rw [Bool.not_eq_true', decide_eq_false_iff_not] at hle
  exact Std.lt_of_le_of_ne hle hne

theorem unknownNames_eq_nil_iff {given : List String} :
    unknownNames given = [] ↔ ∀ name ∈ given, name ∈ names := by
  simp only [List.eq_nil_iff_forall_not_mem, mem_unknownNames, not_and, not_not]

/-! ## Members -/

/-- A switch that is on or off, or a number of instructions that is not too long for a text. -/
inductive IsSetting : String × Json → Prop where
  | switch (q : Switch) (b : Bool) : IsSetting (q.name, .bool b)
  | cycles {n : Int} (hn : n.natAbs < 10 ^ Numeral.maxDigits) : IsSetting (cyclesName, .int n)

/-- Settings are what members list, and the defaults where they list nothing. -/
structure Lists (members : List (String × Json)) (s : Settings) : Prop where
  switch {q : Switch} {b : Bool} (h : (q.name, .bool b) ∈ members) : s.get q = .bool b
  noSwitch {q : Switch} (h : q.name ∉ members.map (·.1)) : s.get q = standard.get q
  cycles {n : Int} (h : (cyclesName, .int n) ∈ members) : (s.cycles : Int) = max 1 n
  noCycles (h : cyclesName ∉ members.map (·.1)) : s.cycles = standard.cycles

theorem IsSetting.mem_names {m : String × Json} (h : IsSetting m) : m.1 ∈ names := by
  rw [← isKnown_iff, isKnown, Bool.or_eq_true, beq_iff_eq]
  cases h with
  | switch q b => exact .inr (by rw [Switch.ofName?_name]; rfl)
  | cycles => exact .inl rfl

theorem IsSetting.exists_int {v : Json} (h : IsSetting (cyclesName, v)) : ∃ n, v = .int n := by
  generalize hm : (cyclesName, v) = m at h
  cases h with
  | switch q b => exact absurd (congrArg Prod.fst hm).symm (name_ne_cyclesName q)
  | cycles => exact ⟨_, congrArg Prod.snd hm⟩

/-- The settings with the switches that members list. -/
def ofSwitches (members : List (String × Json)) : Settings :=
  let value (q : Switch) : Json := (Json.lookup? members q.name).getD (.bool false)
  { standard with
    vfReset := value .vfReset, memory := value .memory, shifting := value .shifting,
    jumping := value .jumping, indexOverflow := value .indexOverflow }

theorem get_ofSwitches (members : List (String × Json)) (q : Switch) :
    (ofSwitches members).get q = (Json.lookup? members q.name).getD (standard.get q) := by
  cases q <;> rfl

theorem ofKnownMembers_of_none {members : List (String × Json)}
    (h : Json.lookup? members cyclesName = none) :
    ofKnownMembers members = .ok (ofSwitches members) := by
  rw [ofKnownMembers, h]
  rfl

theorem ofKnownMembers_of_int {members : List (String × Json)} {n : Int}
    (h : Json.lookup? members cyclesName = some (.int n)) :
    ofKnownMembers members = .ok ((ofSwitches members).withCycles n) := by
  rw [ofKnownMembers, h]
  rfl

/-- Members with different names are taken over. -/
theorem exists_lists {members : List (String × Json)} (hnames : (members.map (·.1)).Nodup)
    (h : ∀ m ∈ members, IsSetting m) :
    ∃ s, ofKnownMembers members = .ok s ∧ Lists members s := by
  have hswitch : ∀ {q b}, (q.name, Json.bool b) ∈ members →
      (ofSwitches members).get q = .bool b := by
    intro q b hmem
    rw [get_ofSwitches, Json.lookup?_of_mem hnames hmem]
    rfl
  have hnoSwitch : ∀ {q}, q.name ∉ members.map (·.1) →
      (ofSwitches members).get q = standard.get q := by
    intro q hmem
    rw [get_ofSwitches, Json.lookup?_of_not_mem hmem]
    rfl
  -- The number of instructions is the only value that is worked on; the switches do not depend on it.
  by_cases hcycles : cyclesName ∈ members.map (·.1)
  · obtain ⟨⟨name, v⟩, hm, rfl⟩ := List.mem_map.mp hcycles
    obtain ⟨n, rfl⟩ := (h _ hm).exists_int
    have hlookup := Json.lookup?_of_mem hnames hm
    refine ⟨_, ofKnownMembers_of_int hlookup, ?_, ?_, ?_, ?_⟩
    · exact fun hmem => (get_withCycles _ n _).trans (hswitch hmem)
    · exact fun hmem => (get_withCycles _ n _).trans (hnoSwitch hmem)
    · intro n' hmem
      rw [Json.lookup?_of_mem hnames hmem] at hlookup
      cases hlookup
      show ((max 1 n.toNat : Nat) : Int) = max 1 n
      omega
    · exact fun hmem => absurd hcycles hmem
  · have hlookup := Json.lookup?_of_not_mem hcycles
    refine ⟨_, ofKnownMembers_of_none hlookup, hswitch, hnoSwitch, ?_, fun _ => rfl⟩
    exact fun hmem => absurd (List.mem_map_of_mem hmem) hcycles

/-! ## Documents -/

variable {fs : Files} {path text : String} {members : List (String × Json)}

/-- A file with a text of a value gives what the value gives. -/
theorem load_of_spells (hread : fs.read path = .ok (Text.utf8 text)) {v : Json}
    (htext : Json.SpellsDocument v text.toList) : load fs path = ofJson v := by
  have hunified : Json.SpellsDocument v (String.ofList (unifyLineEnds text.toList)).toList := by
    rw [String.toList_ofList]
    exact Json.spellsDocument_unifyLineEnds htext
  simp only [load, hread, ofBytes, Text.decodeUtf8_utf8, ofText, Json.read_of_spells hunified]

theorem ofJson_of_known (h : ∀ name ∈ members.map (·.1), name ∈ names) :
    ofJson (.obj members) = ofKnownMembers members := by
  simp only [ofJson, namesIn?, unknownNames_eq_nil_iff.mpr h]

theorem ofJson_of_unknown (h : ∃ name ∈ members.map (·.1), name ∉ names) :
    ofJson (.obj members) = .error (.unknownNames (unknownNames (members.map (·.1)))) := by
  have hne : unknownNames (members.map (·.1)) ≠ [] := by
    rw [Ne, unknownNames_eq_nil_iff]
    intro hall
    obtain ⟨name, hmem, hname⟩ := h
    exact hname (hall name hmem)
  obtain ⟨name, others, hcons⟩ := List.exists_cons_of_ne_nil hne
  simp only [ofJson, namesIn?, hcons]

/-! ## Saving -/

theorem spells_write_setting {m : String × Json} (hm : IsSetting m) (indent : Option Nat)
    (depth : Nat) : Json.Spells (.value m.2) (Json.write indent depth m.2) := by
  have hword : ∀ w v, (w, v) ∈ Json.words → Json.Spells (.value v) w.toList :=
    fun _ _ hw => .scalar (.word hw)
  cases hm with
  | switch q b =>
    cases b with
    | false => exact hword "false" (.bool false) (by simp [Json.words])
    | true => exact hword "true" (.bool true) (by simp [Json.words])
  | cycles hn => exact .scalar (.number (Json.spells_integer hn))

/-- What is written of settings is a text of them, whatever the indent. -/
theorem spells_write_settings (hnames : (members.map (·.1)).Nodup)
    (h : ∀ m ∈ members, IsSetting m) (indent : Option Nat) :
    Json.SpellsDocument (.obj members) (Json.write indent 0 (.obj members)) :=
  (Json.spells_write_object hnames fun m hm => spells_write_setting (h m hm) indent 1).document

theorem nodup_names : names.Nodup := by decide

theorem isSetting_of_mem_fields {s : Settings} (hswitches : ∀ q, ∃ b, s.get q = .bool b)
    (hcycles : s.cycles < 10 ^ Numeral.maxDigits) : ∀ m ∈ s.fields, IsSetting m := by
  have hswitch : ∀ q, IsSetting (q.name, s.get q) := by
    intro q
    obtain ⟨b, hb⟩ := hswitches q
    rw [hb]
    exact .switch q b
  have hcount : IsSetting (cyclesName, .int s.cycles) := .cycles hcycles
  intro m hm
  simp only [fields, List.mem_cons, List.not_mem_nil, or_false] at hm
  rcases hm with rfl | rfl | rfl | rfl | rfl | rfl
  · exact hswitch .vfReset
  · exact hswitch .memory
  · exact hswitch .shifting
  · exact hswitch .jumping
  · exact hcount
  · exact hswitch .indexOverflow

/-- The fields of settings list them and no others. -/
theorem eq_of_lists_fields {s t : Settings} (hswitches : ∀ q, ∃ b, s.get q = .bool b)
    (ht : Lists s.fields t) : t = s := by
  have hfield : ∀ q, (q.name, s.get q) ∈ s.fields := by
    intro q
    cases q <;> simp [fields, get]
  refine ext_get (fun q => ?_) ?_
  · obtain ⟨b, hb⟩ := hswitches q
    have hmem := hfield q
    rw [hb] at hmem ⊢
    exact ht.switch hmem
  · have hmem : (cyclesName, Json.int s.cycles) ∈ s.fields := by simp [fields]
    have hcycles := ht.cycles hmem
    have hone := s.one_le_cycles
    omega

theorem spells_save {s : Settings} (hswitches : ∀ q, ∃ b, s.get q = .bool b)
    (hcycles : s.cycles < 10 ^ Numeral.maxDigits) :
    Json.SpellsDocument (.obj s.fields) s.save.toList := by
  have hnames : (s.fields.map (·.1)).Nodup := nodup_names
  rw [save, Json.pretty, String.toList_ofList]
  exact spells_write_settings hnames (isSetting_of_mem_fields hswitches hcycles) (some 2)

/-! ## Loading -/

theorem load_listed (hread : fs.read path = .ok (Text.utf8 text))
    (htext : Json.SpellsDocument (.obj members) text.toList) (h : ∀ m ∈ members, IsSetting m) :
    ∃ s, load fs path = .ok s ∧ Lists members s := by
  have hknown : ∀ name ∈ members.map (·.1), name ∈ names :=
    List.forall_mem_map.mpr fun m hm => (h m hm).mem_names
  rw [load_of_spells hread htext, ofJson_of_known hknown]
  exact exists_lists htext.nodup_names h

theorem load_save {s : Settings} (hswitches : ∀ q, ∃ b, s.get q = .bool b)
    (hcycles : s.cycles < 10 ^ Numeral.maxDigits)
    (hread : fs.read path = .ok (Text.utf8 s.save)) : load fs path = .ok s := by
  obtain ⟨t, hload, ht⟩ := load_listed hread (spells_save hswitches hcycles)
    (isSetting_of_mem_fields hswitches hcycles)
  rw [hload, eq_of_lists_fields hswitches ht]

/-- Settings whose switches are on or off and whose number of instructions is not too long are loaded
again as they were saved. A text of an object of settings, written with any indent or laid out in any
other way, gives the settings that its members list, and the defaults for the others. Members of other
names are refused: the error has these names, each once and in order. -/
theorem persistence_exact (fs : Files) (path : String) :
    (∀ s : Settings, (∀ q, ∃ b, s.get q = .bool b) → s.cycles < 10 ^ Numeral.maxDigits →
      fs.read path = .ok (Text.utf8 s.save) → load fs path = .ok s) ∧
    (∀ members : List (String × Json), (members.map (·.1)).Nodup →
      (∀ m ∈ members, IsSetting m) → ∀ indent,
        Json.SpellsDocument (.obj members) (Json.write indent 0 (.obj members))) ∧
    ∀ (members : List (String × Json)) (text : String),
      Json.SpellsDocument (.obj members) text.toList →
      fs.read path = .ok (Text.utf8 text) →
      ((∀ m ∈ members, IsSetting m) → ∃ s, load fs path = .ok s ∧ Lists members s) ∧
      ((∃ m ∈ members, m.1 ∉ names) → ∃ unknown,
        load fs path = .error (.unknownNames unknown) ∧
        unknown.Pairwise (· < ·) ∧
        (∀ name, name ∈ unknown ↔ name ∈ members.map (·.1) ∧ name ∉ names) ∧
        (Error.unknownNames unknown).message =
          "Unknown settings: " ++ ", ".intercalate unknown ∧
        (Error.unknownNames unknown).isIn .value = true) := by
  refine ⟨fun s hswitches hcycles hread => load_save hswitches hcycles hread,
    fun members hnames h indent => spells_write_settings hnames h indent,
    fun members text htext hread => ⟨load_listed hread htext, ?_⟩⟩
  rintro ⟨m, hm, hname⟩
  refine ⟨unknownNames (members.map (·.1)), ?_, pairwise_unknownNames _,
    fun name => mem_unknownNames, rfl, rfl⟩
  rw [load_of_spells hread htext, ofJson_of_unknown ⟨m.1, List.mem_map_of_mem hm, hname⟩]

/-- Files that all have one text. -/
def holding (text : String) : Files := ⟨fun _ => .file (Text.utf8 text), fun _ => none⟩

theorem read_holding (text : String) : (holding text).read "a.json" = .ok (Text.utf8 text) := rfl

/-- A number below one and a switch, with blanks where they may be and lines of different ends. -/
def laidOut : String := "\r\n\x7b\"cycles\" : -7,\r\"memory\":true\x7d\n"

theorem lt_limit {n : Nat} (hn : n < 10) : n < 10 ^ Numeral.maxDigits :=
  Nat.lt_of_lt_of_le hn (Nat.le_self_pow (by decide) 10)

theorem spells_laidOut :
    Json.SpellsDocument (.obj [(cyclesName, .int (-7)), (Switch.memory.name, .bool true)])
      laidOut.toList := by
  have hnone : Json.IsBlank [] := nofun
  have hspace : Json.IsBlank [' '] := by decide
  have hbreak : Json.IsBlank ['\r'] := by decide
  have hbefore : Json.IsBlank ['\r', '\n'] := by decide
  have hbehind : Json.IsBlank ['\n'] := by decide
  have hcycles : Json.Spells (.value (.int (-7))) ['-', '7'] :=
    spells_write_setting (.cycles (lt_limit (by decide))) none 0
  have hmemory : Json.Spells (.value (.bool true)) ['t', 'r', 'u', 'e'] :=
    spells_write_setting (.switch .memory true) none 0
  have hmembers := Json.Spells.member (Json.spells_literal cyclesName) hspace hspace hcycles hnone
    hbreak (.lastMember (Json.spells_literal Switch.memory.name) hnone hnone hmemory hnone)
  exact .padded hbefore (.object hnone hmembers) hbehind

/-- Two names of no setting. -/
def strange : List (String × Json) :=
  [("speed", .bool true), (cyclesName, .int 5), ("beep", .bool false)]

theorem spells_strange : Json.SpellsDocument (.obj strange) (Json.compact (.obj strange)).toList := by
  have hvalues : ∀ m ∈ strange, Json.Spells (.value m.2) (Json.write none 1 m.2) := by
    simp only [strange, List.forall_mem_cons]
    exact ⟨spells_write_setting (.switch .memory true) none 1,
      spells_write_setting (.cycles (lt_limit (by decide))) none 1,
      spells_write_setting (.switch .memory false) none 1, nofun⟩
  rw [Json.compact, String.toList_ofList]
  exact (Json.spells_write_object (by decide) hvalues).document

/-- Saved settings, a text laid out by hand, and a text with two names of no setting. -/
theorem persistence_exact_by_hand :
    let s := (standard.turnOn .jumping).withCycles 8
    load (holding s.save) "a.json" = .ok s ∧
    (∃ t, load (holding laidOut) "a.json" = .ok t ∧ t.cycles = 1 ∧ t.get .memory = .bool true ∧
      t.get .jumping = .bool false) ∧
    ∃ unknown, load (holding (Json.compact (.obj strange))) "a.json" =
        .error (.unknownNames unknown) ∧
      "beep" ∈ unknown ∧ "speed" ∈ unknown ∧ cyclesName ∉ unknown := by
  intro s
  obtain ⟨hsaved, -, -⟩ := persistence_exact (holding s.save) "a.json"
  obtain ⟨-, -, hlaidOut⟩ := persistence_exact (holding laidOut) "a.json"
  obtain ⟨-, -, hstrange⟩ := persistence_exact (holding (Json.compact (.obj strange))) "a.json"
  have hswitches : ∀ q, ∃ b, s.get q = .bool b := by
    intro q
    cases q <;> exact ⟨_, rfl⟩
  refine ⟨hsaved s hswitches (lt_limit (by decide)) (read_holding _), ?_, ?_⟩
  · obtain ⟨hlisted, -⟩ := hlaidOut _ _ spells_laidOut (read_holding _)
    obtain ⟨t, hload, ht⟩ := hlisted <| by
      simp only [List.forall_mem_cons]
      exact ⟨.cycles (lt_limit (by decide)), .switch .memory true, nofun⟩
    refine ⟨t, hload, ?_, ?_, ?_⟩
    · have hcycles := ht.cycles List.mem_cons_self
      omega
    · exact ht.switch (List.mem_cons_of_mem _ List.mem_cons_self)
    · exact ht.noSwitch (by decide)
  · obtain ⟨-, hunknown⟩ := hstrange _ _ spells_strange (read_holding _)
    obtain ⟨unknown, hload, -, hmem, -⟩ :=
      hunknown ⟨("speed", .bool true), List.mem_cons_self, by decide⟩
    refine ⟨unknown, hload, ?_, ?_, ?_⟩
    · exact (hmem "beep").mpr (by decide)
    · exact (hmem "speed").mpr (by decide)
    · exact fun h => absurd ((hmem cyclesName).mp h) (by decide)

end Settings

end ChipEight
