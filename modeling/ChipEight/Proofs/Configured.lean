import ChipEight.Proofs.Letters
import ChipEight.Proofs.Persistence

/-!
# Options on top of a configuration

A session takes its settings from a configuration file and from the command line. The options only add
to the file: letters turn switches on, a speed replaces the number of instructions in a tick, and all
else stays as the file has it (`Session.settings_exact`). Without a file the settings are those of the
letters and the speed alone.
-/

namespace ChipEight

namespace Settings

/-- The speed that is set is the one that was computed: it is at least one already. -/
theorem cycles_withCycles_of_one_le (s : Settings) {n : Nat} (h : 1 ≤ n) :
    (s.withCycles n).cycles = n := by
  show max 1 ((n : Int).toNat) = n
  omega

/-- A speed sets the number of instructions to the one computed for it and changes no switch. -/
theorem withSpeed?_eq (s : Settings) {hz : Int} {n : Nat} (h : cyclesForSpeed? hz = some n) :
    ∃ t, s.withSpeed? hz = some t ∧ (∀ q, t.get q = s.get q) ∧ t.cycles = n := by
  refine ⟨s.withCycles n, ?_, get_withCycles s n, ?_⟩
  · rw [withSpeed?, h]
    rfl
  · exact s.cycles_withCycles_of_one_le (one_le_of_cyclesForSpeed? h)

/-- What the letters of a text turn on is turned on, all else stays. -/
theorem get_turnOnFrom_ofLetters (s : Settings) (letters : String) (q : Switch) :
    (s.turnOnFrom (ofLetters letters)).get q =
      if Names letters q then .bool true else s.get q := by
  have hmem : q ∈ (Switch.lettered.map (·.2)).filter (ofLetters letters).isOn ↔
      Names letters q := by
    rw [List.mem_filter, isOn_ofLetters, decide_eq_true_iff, and_iff_right_iff_imp]
    rintro ⟨p, hp, rfl, -⟩
    exact List.mem_map_of_mem hp
  rw [turnOnFrom, get_foldl_turnOn]
  simp only [hmem]

theorem cycles_turnOnFrom (s extra : Settings) : (s.turnOnFrom extra).cycles = s.cycles :=
  cycles_foldl_turnOn _ s

/-- On top of the default settings the letters give the settings of the letters. -/
theorem turnOnFrom_standard (letters : String) :
    standard.turnOnFrom (ofLetters letters) = ofLetters letters := by
  refine ext_get (fun q => ?_) ?_
  · rw [get_turnOnFrom_ofLetters, get_ofLetters, get_standard]
    split <;> simp [*]
  · rw [cycles_turnOnFrom, cycles_ofLetters]

end Settings

namespace Session

/-! ## Where a session starts from -/

/-- The configuration file; an empty path is no file. -/
def configPath? (options : Options) : Option String := options.config.filter (· != "")

/-- The settings that a session starts from: those of the file, or the default ones. -/
def StartsFrom (options : Options) (fs : Files) (base : Settings) : Prop :=
  match configPath? options with
  | none => base = .standard
  | some path => Settings.load fs path = .ok base

/-- The settings of a session. -/
def settingsOf (options : Options) (fs : Files) : Except Failure Settings := do
  addOptions (← baseSettings options fs) options.letters options.speed

variable {options : Options} {fs : Files} {base : Settings}

theorem baseSettings_of_startsFrom (h : StartsFrom options fs base) :
    baseSettings options fs = .ok base := by
  rw [StartsFrom, configPath?] at h
  rw [baseSettings]
  -- No path is given, or an empty one, or that of a file.
  split
  · rename_i hconfig
    simp only [hconfig, Option.filter_none] at h
    rw [h]
  · rename_i hconfig
    simp only [hconfig] at h
    rw [show base = .standard from h]
  · rename_i path hpath hconfig
    have hpath : path ≠ "" := hpath
    simp only [hconfig, Option.filter_some, bne_iff_ne, ne_eq, hpath, not_false_eq_true, if_true] at h
    rw [h]
    rfl

/-! ## What the options add -/

theorem exists_addOptions (base : Settings) (letters : String) {speed : Option Int}
    (hspeed : ∀ hz, speed = some hz → cyclesForSpeed? hz ≠ none) :
    ∃ s, addOptions base letters speed = .ok s ∧
      (∀ q, s.get q = if Settings.Names letters q then .bool true else base.get q) ∧
      (∀ hz, speed = some hz → cyclesForSpeed? hz = some s.cycles) ∧
      (speed = none → s.cycles = base.cycles) := by
  have hget := base.get_turnOnFrom_ofLetters letters
  have hcycles := base.cycles_turnOnFrom (Settings.ofLetters letters)
  cases speed with
  | none => exact ⟨_, rfl, hget, nofun, fun _ => hcycles⟩
  | some hz =>
    obtain ⟨n, hn⟩ := Option.ne_none_iff_exists'.mp (hspeed hz rfl)
    obtain ⟨s, hs, hkept, rfl⟩ :=
      (base.turnOnFrom (Settings.ofLetters letters)).withSpeed?_eq hn
    refine ⟨s, ?_, fun q => (hkept q).trans (hget q), ?_, nofun⟩
    · simp only [addOptions, hs]
    · rintro _ ⟨⟩
      exact hn

theorem addOptions_standard {letters : String} {speed : Option Int} {s : Settings}
    (h : addOptions .standard letters speed = .ok s) :
    Settings.ofLettersAt? letters speed = some s := by
  simp only [addOptions, Settings.turnOnFrom_standard] at h
  cases speed with
  | none =>
    cases h
    rfl
  | some hz =>
    dsimp only at h
    split at h
    · rename_i t hspeed
      cases h
      exact hspeed
    · cases h

/-- The machine that a session starts with has the settings of the session. -/
theorem settingsOf_of_prepare {entropy : Nat} {m : Machine}
    (h : (prepare options fs entropy).2 = .ok m) : settingsOf options fs = .ok m.settings := by
  rw [snd_prepare] at h
  obtain ⟨base, settings, source, memory, keypad, hbase, hsettings, rfl⟩ :=
    exists_parts_of_startMachine h
  rw [settingsOf, hbase]
  exact hsettings

/-- Take a configuration that can be loaded, or none, any letters, and any speed for which a number of
instructions can be computed. The session has settings: a switch is on whose letter is among the
letters in either case, all other switches are as in the configuration; the number of instructions is
the one for the speed, also for zero and below, and without a speed that of the configuration. Without
a configuration these are the settings of the letters and the speed. The machine of the session has
them. -/
theorem settings_exact (options : Options) (fs : Files) (base : Settings)
    (hbase : StartsFrom options fs base)
    (hspeed : ∀ hz, options.speed = some hz → cyclesForSpeed? hz ≠ none) :
    ∃ s, settingsOf options fs = .ok s ∧
      (∀ p ∈ Switch.lettered, s.get p.2 =
        if p.1 ∈ options.letters.toList ∨ p.1.toUpper ∈ options.letters.toList then .bool true
        else base.get p.2) ∧
      s.get .indexOverflow = base.get .indexOverflow ∧
      (∀ hz, options.speed = some hz → cyclesForSpeed? hz = some s.cycles) ∧
      (options.speed = none → s.cycles = base.cycles) ∧
      (configPath? options = none →
        Settings.ofLettersAt? options.letters options.speed = some s) ∧
      ∀ entropy m, (prepare options fs entropy).2 = .ok m → m.settings = s := by
  obtain ⟨s, hs, hget, hcycles, hkept⟩ := exists_addOptions base options.letters hspeed
  have hsettings : settingsOf options fs = .ok s := by
    rw [settingsOf, baseSettings_of_startsFrom hbase]
    exact hs
  refine ⟨s, hsettings, fun p hp => ?_, ?_, hcycles, hkept, fun hnone => ?_, fun entropy m hm => ?_⟩
  · rw [hget]
    simp only [Settings.names_iff_mem_or hp]
  · rw [hget, if_neg (Settings.not_names_indexOverflow options.letters)]
  · rw [StartsFrom, hnone] at hbase
    rw [show base = .standard from hbase] at hs
    exact addOptions_standard hs
  · have hm' := settingsOf_of_prepare hm
    rw [hsettings] at hm'
    exact (Except.ok.inj hm').symm

/-- A configuration with one switch on and three instructions in a tick. -/
def shiftingConfig : Settings := (Settings.standard.turnOn .shifting).withCycles 3

/-- A capital letter and a speed below zero on top of a file. -/
theorem settings_exact_of_backwards :
    let options : Options :=
      { program := "a.ch8", letters := "Jq", speed := some (-600), config := some "a.json" }
    ∃ s, settingsOf options (Settings.holding shiftingConfig.save) = .ok s ∧
      s.get .jumping = .bool true ∧ s.get .shifting = .bool true ∧ s.get .memory = .bool false ∧
      s.cycles = 10 := by
  intro options
  have hswitches : ∀ q, ∃ b, shiftingConfig.get q = .bool b := by
    intro q
    cases q <;> exact ⟨_, rfl⟩
  have hbase : StartsFrom options (Settings.holding shiftingConfig.save) shiftingConfig :=
    Settings.load_save hswitches (Settings.lt_limit (by decide)) (Settings.read_holding _)
  have hcycles : cyclesForSpeed? (-600) = some 10 := by decide +kernel
  have hspeed : ∀ hz, options.speed = some hz → cyclesForSpeed? hz ≠ none := by
    rintro _ ⟨⟩
    simp [hcycles]
  obtain ⟨s, hs, hget, -, hnew, -⟩ :=
    settings_exact options (Settings.holding shiftingConfig.save) shiftingConfig hbase hspeed
  refine ⟨s, hs, ?_, ?_, ?_, ?_⟩
  · exact (hget ('j', .jumping) (by decide)).trans (if_pos (by decide))
  · exact (hget ('s', .shifting) (by decide)).trans (if_neg (by decide))
  · exact (hget ('m', .memory) (by decide)).trans (if_neg (by decide))
  · have hsame := (hnew (-600) rfl).symm.trans hcycles
    exact Option.some.inj hsame

end Session

end ChipEight
