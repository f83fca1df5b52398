import ChipEight.Proofs.Endings
import ChipEight.Proofs.Letters

/-!
# Turning switches over

A switch is turned over by its letter or by its full name, as long as it is on or off. Any other name is
refused, and so is a switch that holds some other value, and nothing changes then. After any calls a
switch is what it was at first, turned over as often as a call for it was answered
(`Settings.toggling_exact`).
-/

namespace ChipEight

/-- Is a refusal part of a group? -/
def Refusal.isIn : Refusal → ErrorGroup → Bool
  | fault f, g => f.errorClass.isIn g
  | load e, g => e.isIn g
  | key _, g | switch _, g => g == .value
  | cycles e, g => e.isIn g

namespace Switch

theorem ofName?_eq_some_iff {name : String} {q : Switch} : ofName? name = some q ↔ q.name = name := by
  constructor
  · intro h
    rw [ofName?] at h
    simpa using List.find?_some h
  · rintro rfl
    exact ofName?_name q

theorem name_inj {q r : Switch} (h : q.name = r.name) : q = r := by
  have hname := ofName?_name r
  rw [← h, ofName?_name] at hname
  exact Option.some.inj hname

/-- No full name is as short as a letter. -/
theorem ofName?_singleton (c : Char) : ofName? (String.ofList [c]) = none := by
  have hlength : ∀ q : Switch, q.name.toList.length ≠ 1 := by
    intro q
    cases q <;> decide
  rw [Option.eq_none_iff_forall_ne_some]
  intro q hq
  refine hlength q ?_
  rw [ofName?_eq_some_iff.mp hq, String.toList_ofList]
  rfl

end Switch

namespace Settings

/-! ## Names of switches -/

/-- What a name stands for: a letter for the name of its switch, any other text for itself. -/
def fullName (name : String) : String :=
  match Switch.lettered.find? fun p => String.singleton p.1 == name with
  | some p => p.2.name
  | none => name

/-- The switch that is meant is the one whose full name is meant. -/
theorem resolve?_eq (name : String) : resolve? name = Switch.ofName? (fullName name) := by
  obtain ⟨cs, rfl⟩ : ∃ cs, name = String.ofList cs := ⟨name.toList, String.ofList_toList.symm⟩
  have hsingleton : ∀ c, (String.singleton c == String.ofList cs) = ([c] == cs) := by
    intro c
    rw [Bool.eq_iff_iff, beq_iff_eq, beq_iff_eq, ← String.toList_inj, String.toList_singleton,
      String.toList_ofList]
  rw [resolve?, fullName, String.toList_ofList]
  simp only [hsingleton]
  split
  · rename_i c
    have hfind : (Switch.lettered.find? fun p => [p.1] == [c]) =
        Switch.lettered.find? fun p => p.1 == c := by simp
    rw [Switch.ofLetter?, lookup_eq_find?, hfind]
    cases Switch.lettered.find? fun p => p.1 == c with
    | none => exact (Switch.ofName?_singleton c).symm
    | some p => exact (Switch.ofName?_name p.2).symm
  · rename_i hlong
    have hnone : (Switch.lettered.find? fun p => [p.1] == cs) = none := by
      rw [List.find?_eq_none]
      intro p _ hp
      exact hlong p.1 (beq_iff_eq.mp hp).symm
    rw [hnone]

/-! ## One call -/

/-- Asks for a switch to be turned over: the answer and the settings after it. -/
def call (s : Settings) (name : String) : Except Refusal Bool × Settings :=
  match s.toggle? name with
  | some (on, t) => (.ok on, t)
  | none => (.error (.switch name), s)

/-- The switch of a name that is on or off is turned over. -/
theorem call_of_switch {s : Settings} {name : String} {q : Switch} {b : Bool}
    (hname : q.name = fullName name) (hb : s.get q = .bool b) :
    s.call name = (.ok !b, s.set q (.bool !b)) := by
  have hresolve : resolve? name = some q := by
    rw [resolve?_eq, ← hname, Switch.ofName?_name]
  simp only [call, toggle?, hresolve, hb]

/-- A name of no switch that is on or off is refused. -/
theorem call_of_not_switch {s : Settings} {name : String}
    (h : ¬ ∃ (q : Switch) (b : Bool), q.name = fullName name ∧ s.get q = .bool b) :
    s.call name = (.error (.switch name), s) := by
  have hnone : s.toggle? name = none := by
    rw [toggle?]
    split
    · rfl
    · rename_i q hresolve
      split
      · rename_i b hb
        rw [resolve?_eq, Switch.ofName?_eq_some_iff] at hresolve
        exact absurd ⟨q, b, hresolve, hb⟩ h
      · rfl
  rw [call, hnone]

theorem call_eq_error_iff {s : Settings} {name : String} :
    (s.call name).1 = .error (.switch name) ↔
      ¬ ∃ (q : Switch) (b : Bool), q.name = fullName name ∧ s.get q = .bool b := by
  constructor
  · rintro hrefused ⟨q, b, hname, hb⟩
    rw [call_of_switch hname hb] at hrefused
    cases hrefused
  · intro hnot
    rw [call_of_not_switch hnot]

/-- The operation of the host is this call. -/
theorem apply_toggle (fs : Files) (m : Machine) (name : String) :
    m.apply fs (.toggle name) = ((m.settings.call name).1.map .toggled,
      { m with settings := (m.settings.call name).2 }) := by
  rw [call, Machine.apply]
  cases m.settings.toggle? name with
  | none => rfl
  | some r => rfl

/-! ## Many calls -/

/-- Calls one after the other, with their answers, and the settings after them. -/
def callAll (s : Settings) : List String → List (String × Except Refusal Bool) × Settings
  | [] => ([], s)
  | name :: names =>
    let (answer, t) := s.call name
    let (calls, u) := t.callAll names
    ((name, answer) :: calls, u)

/-- How often a switch was turned over: the calls for it, by either name, that were answered. -/
def flips (q : Switch) (calls : List (String × Except Refusal Bool)) : Nat :=
  calls.countP fun c => fullName c.1 == q.name && c.2.isOk

theorem callAll_cons (s : Settings) (name : String) (names : List String) :
    s.callAll (name :: names) =
      ((name, (s.call name).1) :: ((s.call name).2.callAll names).1,
        ((s.call name).2.callAll names).2) := rfl

theorem flips_of_ok {q : Switch} {name : String} (hname : q.name = fullName name) (on : Bool)
    (calls : List (String × Except Refusal Bool)) :
    flips q ((name, .ok on) :: calls) = flips q calls + 1 := by
  simp [flips, hname, Except.isOk, Except.toBool]

theorem flips_of_error (q : Switch) (name : String) (e : Refusal)
    (calls : List (String × Except Refusal Bool)) :
    flips q ((name, .error e) :: calls) = flips q calls := by
  simp [flips, Except.isOk, Except.toBool]

theorem flips_of_ne {q : Switch} {name : String} (hname : q.name ≠ fullName name)
    (answer : Except Refusal Bool) (calls : List (String × Except Refusal Bool)) :
    flips q ((name, answer) :: calls) = flips q calls := by
  simp [flips, Ne.symm hname]

/-- A switch that is on or off is turned over as often as a call for it was answered. -/
theorem get_callAll (names : List String) {s : Settings} {q : Switch} {b : Bool}
    (hb : s.get q = .bool b) :
    (s.callAll names).2.get q = .bool (if Odd (flips q (s.callAll names).1) then !b else b) := by
  induction names generalizing s b with
  | nil => simp [callAll, flips, hb]
  | cons name names ih =>
    rw [callAll_cons]
    by_cases hcall : ∃ (r : Switch) (b : Bool), r.name = fullName name ∧ s.get r = .bool b
    · obtain ⟨r, b', hname, hb'⟩ := hcall
      rw [call_of_switch hname hb']
      by_cases hq : r = q
      · -- The rest of the calls starts from the negated value, and there is one call more.
        subst hq
        obtain rfl : b' = b := Json.bool.inj (hb'.symm.trans hb)
        rw [ih (get_set_self s r _), flips_of_ok hname]
        by_cases hodd : Odd (flips r ((s.set r (.bool !b')).callAll names).1)
        · simp [Nat.odd_add_one, hodd]
        · simp [Nat.odd_add_one, hodd]
      · have hne : q.name ≠ fullName name := fun h => hq (Switch.name_inj (hname.trans h.symm))
        rw [ih ((get_set_of_ne s _ hq).trans hb), flips_of_ne hne]
    · rw [call_of_not_switch hcall, flips_of_error]
      exact ih hb

/-- The number of instructions stays, and so does a switch that is neither on nor off. -/
theorem callAll_keeps (names : List String) (s : Settings) :
    (s.callAll names).2.cycles = s.cycles ∧
      ∀ q, (∀ b, s.get q ≠ .bool b) → (s.callAll names).2.get q = s.get q := by
  induction names generalizing s with
  | nil => exact ⟨rfl, fun _ _ => rfl⟩
  | cons name names ih =>
    rw [callAll_cons]
    by_cases hcall : ∃ (r : Switch) (b : Bool), r.name = fullName name ∧ s.get r = .bool b
    · obtain ⟨r, b, hname, hb⟩ := hcall
      rw [call_of_switch hname hb]
      obtain ⟨hcycles, hother⟩ := ih (s.set r (.bool !b))
      refine ⟨hcycles.trans (s.cycles_set r _), fun q hq => ?_⟩
      -- The switch that was turned over is on or off, so it is another one.
      have hne : r ≠ q := by
        rintro rfl
        exact hq b hb
      have hkept := s.get_set_of_ne (.bool !b) hne
      exact (hother q fun b' => hkept ▸ hq b').trans hkept
    · rw [call_of_not_switch hcall]
      exact ih s

/-! ## All about turning over -/

/-- Let switches be called for, one after the other, by any names. The next call is refused, with an
error of a value, if and only if what the name stands for is not the name of a switch that is on or off,
and it changes nothing then. Otherwise it turns over just this switch and answers its new value. After
all calls a switch that was on or off has been negated if and only if an odd number of calls for it was
answered, by letter or by full name, and all else is as it was. -/
theorem toggling_exact (s : Settings) (names : List String) :
    let (calls, t) := s.callAll names
    (∀ name,
      ((t.call name).1 = .error (.switch name) ↔
        ¬ ∃ (q : Switch) (b : Bool), q.name = fullName name ∧ t.get q = .bool b) ∧
      (Refusal.switch name).isIn .value = true ∧
      ((t.call name).1 = .error (.switch name) → (t.call name).2 = t) ∧
      (∀ q b, q.name = fullName name → t.get q = .bool b →
        (t.call name).1 = .ok !b ∧ (t.call name).2.get q = .bool !b ∧
        (∀ r ≠ q, (t.call name).2.get r = t.get r) ∧ (t.call name).2.cycles = t.cycles) ∧
      ∀ (fs : Files) (m : Machine), m.settings = t → m.apply fs (.toggle name) =
        ((t.call name).1.map .toggled, { m with settings := (t.call name).2 })) ∧
    (∀ q b, s.get q = .bool b → t.get q = .bool (if Odd (flips q calls) then !b else b)) ∧
    (∀ q, (∀ b, s.get q ≠ .bool b) → t.get q = s.get q) ∧
    t.cycles = s.cycles := by
  rcases hall : s.callAll names with ⟨calls, t⟩
  obtain ⟨hcycles, hother⟩ := callAll_keeps names s
  rw [hall] at hcycles hother
  refine ⟨fun name => ⟨call_eq_error_iff, rfl, ?_, ?_, ?_⟩, fun q b hb => ?_, hother, hcycles⟩
  · intro hrefused
    rw [call_of_not_switch (call_eq_error_iff.mp hrefused)]
  · intro q b hname hb
    rw [call_of_switch hname hb]
    exact ⟨rfl, get_set_self t q _, fun r hr => t.get_set_of_ne _ hr.symm, t.cycles_set q _⟩
  · rintro fs m rfl
    exact apply_toggle fs m name
  · have hget := get_callAll names hb
    rwa [hall] at hget

/-- A switch that is off, and one that holds a number. -/
def numbered : Settings := standard.set .memory (.int 1)

/-- A switch is called for three times by letter and by name, with calls in between that are refused. -/
theorem toggling_exact_thrice :
    let (calls, t) := numbered.callAll ["j", "jumping", "m", "cycles", "jumping", "J"]
    flips .jumping calls = 3 ∧ t.get .jumping = .bool true ∧ t.get .memory = .int 1 ∧
      (t.call "j").1 = .ok false ∧ (t.call "memory").1 = .error (.switch "memory") := by
  have hflips : flips .jumping
      (numbered.callAll ["j", "jumping", "m", "cycles", "jumping", "J"]).1 = 3 := by decide +kernel
  have hmain := toggling_exact numbered ["j", "jumping", "m", "cycles", "jumping", "J"]
  rcases hall : numbered.callAll ["j", "jumping", "m", "cycles", "jumping", "J"] with ⟨calls, t⟩
  rw [hall] at hflips hmain
  obtain ⟨hcalls, hswitches, hothers, -⟩ := hmain
  have hjumping : t.get .jumping = .bool true := by
    rw [hswitches .jumping false rfl, hflips]
    rfl
  have hmemory : t.get .memory = .int 1 := hothers .memory nofun
  refine ⟨hflips, hjumping, hmemory, ?_, ?_⟩
  · obtain ⟨-, -, -, hanswered, -⟩ := hcalls "j"
    exact (hanswered .jumping true (by decide +kernel) hjumping).1
  · obtain ⟨hrefused, -⟩ := hcalls "memory"
    refine hrefused.mpr ?_
    rintro ⟨q, b, hname, hb⟩
    have hq : q = .memory := Switch.name_inj (hname.trans (by decide +kernel))
    rw [hq, hmemory] at hb
    cases hb

end Settings

end ChipEight
