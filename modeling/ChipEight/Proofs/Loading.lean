import ChipEight.Files.Directory
import ChipEight.Proofs.Footprint
import ChipEight.Proofs.WellFormed

/-!
# Loading

A host loads programs one over the other, some of which are refused. What a call offers decides about
it (`Machine.load_exact`): a refused one changes nothing, and an accepted one nothing but memory. In
the program region there is afterwards, byte by byte, what the last program that reaches so far has in
that place (`Machine.loadAll_exact`).

A call for a file that cannot be read is refused with an error of the library, with one exception: a
path that the system does not even follow, such as one with a name that is too long, is refused with
the error of the system itself (`Machine.load_of_long`).
-/

namespace ChipEight

/-- What a readable regular file at a path holds. -/
def Files.bytes? (fs : Files) (path : String) : Option (List UInt8) :=
  match fs.find (Path.normalise path) with
  | .file bytes => some bytes
  | _ => none

/-- A call of the host that loads a program, with the files that there are at that time. -/
structure LoadCall where
  files : Files
  operation : Operation
  loads : operation.loads

namespace LoadCall

/-- The program that a call offers. -/
def offered? (c : LoadCall) : Option (List UInt8) :=
  match c.operation with
  | .load program => some program
  | .loadFile path => c.files.bytes? path
  | _ => none

/-- The program that a call offers, if it fits. -/
def accepted? (c : LoadCall) : Option (List UInt8) := c.offered?.filter (·.length ≤ 3215)

theorem length_le_of_accepted {c : LoadCall} {program : List UInt8}
    (h : c.accepted? = some program) : program.length ≤ 3215 := by
  obtain ⟨-, hsize⟩ := Option.filter_eq_some_iff.mp h
  exact of_decide_eq_true hsize

/-- Is the call about a path that the system does not follow? -/
def Barred (c : LoadCall) : Prop :=
  ∃ path fault, c.operation = .loadFile path ∧
    c.files.find (Path.normalise path) = .barred fault

end LoadCall

/-! ## One call -/

namespace Machine

/-- The answer to a call and the machine after it. -/
def load (m : Machine) (c : LoadCall) : Except Refusal Reply × Machine :=
  m.apply c.files c.operation

/-- The machine after calls one after the other, whether they succeed or not. -/
def loadAll (m : Machine) (calls : List LoadCall) : Machine :=
  calls.foldl (fun m c => (m.load c).2) m

/-- The machine with a program copied to the program region. -/
def withProgram (m : Machine) (program : List UInt8) : Machine :=
  { m with memory := m.memory.writeAll (UInt16.ofNat Layout.programStart) program }

variable (m : Machine) {c : LoadCall} {program : List UInt8}

theorem load_of_offered (h : c.offered? = some program) :
    m.load c = if 3215 < program.length then (.error (.load (.tooLarge program.length)), m)
      else (.ok .done, m.withProgram program) := by
  have hcapacity : Layout.programCapacity = 3215 := rfl
  have hload (fs : Files) : m.apply fs (.load program) =
      if 3215 < program.length then (.error (.load (.tooLarge program.length)), m)
      else (.ok .done, m.withProgram program) := by
    rw [apply, loadProgram, hcapacity]
    by_cases hsize : 3215 < program.length
    · rw [if_pos hsize, if_pos hsize]
    · rw [if_neg hsize, if_neg hsize]
      rfl
  obtain ⟨fs, op, hop⟩ := c
  cases op with
  | load program' =>
    obtain rfl : program' = program := Option.some.inj h
    exact hload fs
  | loadFile path =>
    have hread : readProgram fs path = .ok program := by
      simp only [LoadCall.offered?, Files.bytes?] at h
      rw [readProgram]
      cases hfind : fs.find (Path.normalise path) with
      | file bytes =>
        rw [hfind] at h
        exact congrArg Except.ok (Option.some.inj h)
      | _ =>
        rw [hfind] at h
        cases h
    rw [load, apply_loadFile, hread]
    exact hload fs
  | _ => cases hop

theorem load_of_not_offered (h : c.offered? = none) :
    ∃ e, m.load c = (.error (.load e), m) ∧
      (c.Barred ∧ e.errorClass? = none ∨ ¬c.Barred ∧ e.errorClass? = some .romFile) := by
  obtain ⟨fs, op, hop⟩ := c
  cases op with
  | load program => cases h
  | loadFile path =>
    simp only [LoadCall.offered?, Files.bytes?] at h
    simp only [load, apply_loadFile, readProgram, LoadCall.Barred]
    cases hfind : fs.find (Path.normalise path) with
    | file bytes =>
      rw [hfind] at h
      cases h
    | barred fault => exact ⟨_, rfl, .inl ⟨⟨path, fault, rfl, hfind⟩, rfl⟩⟩
    | missing | notDirectory | directory | faulty fault =>
      refine ⟨_, rfl, .inr ⟨?_, rfl⟩⟩
      rintro ⟨path', fault', hpath, hbarred⟩
      obtain rfl : path = path' := Operation.loadFile.inj hpath
      rw [hfind] at hbarred
      cases hbarred
  | _ => cases hop

theorem snd_load (c : LoadCall) :
    (m.load c).2 =
      match c.accepted? with
      | some program => m.withProgram program
      | none => m := by
  rw [LoadCall.accepted?]
  cases hoffered : c.offered? with
  | none =>
    obtain ⟨e, hload, -⟩ := load_of_not_offered m hoffered
    rw [hload]
    rfl
  | some program =>
    rw [load_of_offered m hoffered]
    by_cases hsize : 3215 < program.length
    · have hrejected : (some program).filter (fun p : List UInt8 => p.length ≤ 3215) = none := by
        simpa using hsize
      rw [if_pos hsize, hrejected]
    · have haccepted :
          (some program).filter (fun p : List UInt8 => p.length ≤ 3215) = some program := by
        simpa using hsize
      rw [if_neg hsize, haccepted]

/-- What a call answers, and what it changes. -/
structure LoadExact (m : Machine) (c : LoadCall) : Prop where
  accepted : (m.load c).1 = .ok .done ↔
    ∃ program, c.offered? = some program ∧ program.length ≤ 3215
  /-- Nothing but memory changes. -/
  keeps : ∃ memory, (m.load c).2 = { m with memory }
  /-- A refused call changes nothing at all. -/
  rejected : (m.load c).1 ≠ .ok .done → ∃ e, m.load c = (.error (.load e), m) ∧
    ((∃ program, c.offered? = some program ∧ 3215 < program.length ∧
        e.errorClass? = some .programTooLarge) ∨
      (c.offered? = none ∧ ¬c.Barred ∧ e.errorClass? = some .romFile) ∨
      (c.offered? = none ∧ c.Barred ∧ e.errorClass? = none))

theorem load_exact (c : LoadCall) : LoadExact m c where
  accepted := by
    constructor
    · intro hok
      cases hoffered : c.offered? with
      | none =>
        obtain ⟨e, hload, -⟩ := load_of_not_offered m hoffered
        rw [hload] at hok
        cases hok
      | some program =>
        refine ⟨program, rfl, ?_⟩
        by_contra hsize
        rw [load_of_offered m hoffered, if_pos (Nat.lt_of_not_le hsize)] at hok
        cases hok
    · rintro ⟨program, hoffered, hsize⟩
      rw [load_of_offered m hoffered, if_neg (Nat.not_lt.mpr hsize)]
  keeps := by
    rw [snd_load]
    cases c.accepted? with
    | some program => exact ⟨_, rfl⟩
    | none => exact ⟨m.memory, rfl⟩
  rejected := by
    intro hnot
    cases hoffered : c.offered? with
    | none =>
      obtain ⟨e, hload, hclass⟩ := load_of_not_offered m hoffered
      refine ⟨e, hload, .inr ?_⟩
      rcases hclass with ⟨hbarred, hnone⟩ | ⟨hfound, hrom⟩
      · exact .inr ⟨rfl, hbarred, hnone⟩
      · exact .inl ⟨rfl, hfound, hrom⟩
    | some program =>
      rw [load_of_offered m hoffered] at hnot ⊢
      by_cases hsize : 3215 < program.length
      · rw [if_pos hsize]
        exact ⟨_, rfl, .inl ⟨program, rfl, hsize, rfl⟩⟩
      · rw [if_neg hsize] at hnot
        exact absurd rfl hnot

/-! ### Memory -/

theorem cells_load_outside (c : LoadCall) (a : Fin 4096) (ha : a.val < 0x200 ∨ 0xE8F ≤ a.val) :
    (m.load c).2.memory.cells.get a = m.memory.cells.get a := by
  rw [snd_load]
  cases haccepted : c.accepted? with
  | none => rfl
  | some program =>
    have hsize : program.length ≤ 3215 := LoadCall.length_le_of_accepted haccepted
    refine Memory.getElem_writeAll_of_ne _ _ _ _ fun k hk => ?_
    have hstart : (UInt16.ofNat Layout.programStart).toNat = 0x200 := rfl
    omega

theorem cells_load_inside (c : LoadCall) {j : Nat} (hj : j < 3215) :
    (m.load c).2.memory.cells[0x200 + j] =
      (c.accepted?.bind (·[j]?)).getD m.memory.cells[0x200 + j] := by
  rw [snd_load]
  cases haccepted : c.accepted? with
  | none => rfl
  | some program =>
    have hsize : program.length ≤ 3215 := LoadCall.length_le_of_accepted haccepted
    have hstart : (UInt16.ofNat Layout.programStart).toNat = 0x200 := rfl
    exact m.memory.getElem_writeAll (UInt16.ofNat Layout.programStart) program
      (by omega) (by omega)

/-! ## Calls one after the other -/

theorem loadAll_keeps (calls : List LoadCall) : ∃ memory, m.loadAll calls = { m with memory } := by
  induction calls generalizing m with
  | nil => exact ⟨m.memory, rfl⟩
  | cons c calls ih =>
    obtain ⟨memory, hm⟩ := (load_exact m c).keeps
    obtain ⟨memory', hm'⟩ := ih (m.load c).2
    refine ⟨memory', ?_⟩
    show (m.load c).2.loadAll calls = _
    rw [hm', hm]

theorem cells_loadAll_outside (calls : List LoadCall) (a : Fin 4096)
    (ha : a.val < 0x200 ∨ 0xE8F ≤ a.val) :
    (m.loadAll calls).memory.cells.get a = m.memory.cells.get a := by
  induction calls generalizing m with
  | nil => rfl
  | cons c calls ih =>
    show ((m.load c).2.loadAll calls).memory.cells.get a = _
    rw [ih, cells_load_outside m c a ha]

/-- The programs that were accepted, the last one first. -/
def acceptedBackwards (calls : List LoadCall) : List (List UInt8) :=
  (calls.filterMap LoadCall.accepted?).reverse

theorem acceptedBackwards_cons (c : LoadCall) (calls : List LoadCall) :
    acceptedBackwards (c :: calls) = acceptedBackwards calls ++ c.accepted?.toList := by
  rw [acceptedBackwards, acceptedBackwards, List.filterMap_cons]
  cases c.accepted? with
  | none => exact (List.append_nil _).symm
  | some program => exact List.reverse_cons

/-- The last program that reaches a place has its byte there. -/
theorem cells_loadAll_inside (calls : List LoadCall) {j : Nat} (hj : j < 3215) :
    (m.loadAll calls).memory.cells[0x200 + j] =
      ((acceptedBackwards calls).findSome? (·[j]?)).getD m.memory.cells[0x200 + j] := by
  induction calls generalizing m with
  | nil => rfl
  | cons c calls ih =>
    show ((m.load c).2.loadAll calls).memory.cells[0x200 + j] = _
    have hfirst : (c.accepted?.toList.findSome? (·[j]?)) = c.accepted?.bind (·[j]?) := by
      cases c.accepted? with
      | none => rfl
      | some program => simp
    rw [ih, cells_load_inside m c hj, acceptedBackwards_cons, List.findSome?_append, hfirst,
      Option.getD_or]

end Machine

/-! ## The bare machine -/

/-- The bare machine after calls one after the other. -/
def BareMachine.loadAll (s : BareMachine) (calls : List LoadCall) : BareMachine :=
  calls.foldl (fun s c => left ((apply c.files c.operation).run s)) s

/-- The bare machine, whose memory could grow, goes the same way. -/
theorem Machine.bare_loadAll {m : Machine} {d : Nat → Int} (hd : m.random.Gives d)
    (calls : List LoadCall) : (m.bare d).loadAll calls = (m.loadAll calls).bare d := by
  induction calls generalizing m with
  | nil => rfl
  | cons c calls ih =>
    have hnext : BareMachine.left ((BareMachine.apply c.files c.operation).run (m.bare d)) =
        (m.load c).2.bare d := by
      rw [BareMachine.run_apply m c.files hd c.operation, BareMachine.left_answer]
      rfl
    have hgives : (m.load c).2.random.Gives d := (gives_kept d).apply c.files m c.operation hd
    rw [BareMachine.loadAll, List.foldl_cons, hnext]
    exact ih hgives

/-! ## Names that are too long -/

section

variable {name : String} (hslash : '/' ∉ name.toList)
include hslash

theorem Path.head?_ne_slash : name.toList.head? ≠ some '/' :=
  fun h => hslash (List.mem_of_head? h)

theorem Path.components_of_no_slash : Path.components name = [name] := by
  have hsingle : name.toList.splitOn '/' = [name.toList] := by
    refine List.splitOnP_eq_singleton fun x hx => ?_
    refine beq_false_of_ne ?_
    rintro rfl
    exact hslash hx
  rw [Path.components, hsingle, List.map_singleton, String.ofList_toList]

theorem Path.normalise_of_no_slash (hempty : name ≠ "") (hdot : name ≠ ".") :
    Path.normalise name = name := by
  have hfront : name.toList.takeWhile (· == '/') = [] := by
    cases hname : name.toList with
    | nil => rfl
    | cons c cs =>
      refine List.takeWhile_cons_of_neg ?_
      intro hc
      refine Path.head?_ne_slash hslash ?_
      rw [hname, ← eq_of_beq hc]
      rfl
  have hnames : [name].filter (fun c => c != "" && c != ".") = [name] := by
    simp [hempty, hdot]
  have hwhole : "" ++ "/".intercalate [name] = name := String.empty_append
  simp only [Path.normalise, Path.components_of_no_slash hslash, hfront, hnames, hwhole,
    List.length_nil, if_pos, if_neg hempty]

variable (hnul : '\x00' ∉ name.toList) (hlong : Directory.nameLimit < name.utf8ByteSize)
  (hpath : name.utf8ByteSize ≤ Directory.pathLimit)
include hnul hlong hpath

/-- A name that is too long is not followed, unless there is an entry of that name. -/
theorem Directory.find_of_long (d : Directory) (hentry : d.lookup name = none) :
    d.find (Path.normalise name) = .barred .nameTooLong := by
  have hne {short : String} (h : short.utf8ByteSize ≤ 2) : name ≠ short := by
    rintro rfl
    exact absurd hlong (Nat.not_lt.mpr (h.trans (by decide)))
  have hempty : name ≠ "" := hne (by decide)
  have hdot : name ≠ "." := hne (by decide)
  have hdots : name ≠ ".." := hne (by decide)
  have hstart : Directory.start name = .here := if_neg (Path.head?_ne_slash hslash)
  have hfollow : Directory.Place.follow d .here name = .error (.barred .nameTooLong) := by
    simp only [Directory.Place.follow, hempty, hdot, hdots, or_self, if_false, hentry,
      Directory.absent, if_pos hlong]
  rw [Path.normalise_of_no_slash hslash hempty hdot, Directory.find,
    if_neg (not_or.mpr ⟨hempty, hnul⟩), if_neg (Nat.not_lt.mpr hpath), hstart,
    Path.components_of_no_slash hslash, Directory.walk, hfollow]

/-- There is no file of such a name, but the error does not say so. -/
theorem Machine.load_of_long (m : Machine) (d : Directory) (hentry : d.lookup name = none) :
    let c : LoadCall := ⟨d.files, .loadFile name, rfl⟩
    c.offered? = none ∧ ∃ e, m.load c = (.error (.load e), m) ∧ e.errorClass? = none := by
  intro c
  have hfind : c.files.find (Path.normalise name) = .barred .nameTooLong :=
    Directory.find_of_long hslash hnul hlong hpath d hentry
  have hnone : c.offered? = none := by
    show Files.bytes? c.files name = none
    rw [Files.bytes?, hfind]
  obtain ⟨e, hload, hclass⟩ := load_of_not_offered m hnone
  refine ⟨hnone, e, hload, ?_⟩
  rcases hclass with ⟨-, hclass⟩ | ⟨hnot, -⟩
  · exact hclass
  · exact absurd ⟨name, .nameTooLong, rfl, hfind⟩ hnot

end

/-- A name of `n` letters. -/
def letters (n : Nat) : String := String.ofList (List.replicate n 'a')

theorem utf8ByteSize_letters (n : Nat) : (letters n).utf8ByteSize = n := by
  unfold letters
  induction n with
  | zero => rfl
  | succ n ih =>
    have hletter : "a".utf8ByteSize = 1 := by decide
    have hcons : String.ofList ('a' :: List.replicate n 'a') =
        "a" ++ String.ofList (List.replicate n 'a') := by
      simp
    rw [List.replicate_succ, hcons, String.utf8ByteSize_append, ih, hletter, Nat.add_comm]

theorem not_mem_letters (n : Nat) {x : Char} (hx : x ≠ 'a') : x ∉ (letters n).toList := by
  rw [letters, String.toList_ofList, List.mem_replicate]
  exact fun h => hx h.2

namespace Machine

/-- Whatever calls a host makes to load programs: a call succeeds exactly when it offers a program of
at most 3215 bytes, and a refused one changes nothing. All of them together change nothing but the
program region, where each byte is afterwards that of the last accepted program which is so long.
Memory keeps its length on the bare machine, too, where nothing but the code sees to that. -/
theorem loadAll_exact (m : Machine) (calls : List LoadCall) :
    (∀ x c, LoadExact x c) ∧
    (∃ memory, m.loadAll calls = { m with memory }) ∧
    (∀ a : Fin 4096, a.val < 0x200 ∨ 0xE8F ≤ a.val →
      (m.loadAll calls).memory.cells.get a = m.memory.cells.get a) ∧
    (∀ (j : Nat) (hj : j < 3215),
      (m.loadAll calls).memory.cells[0x200 + j] =
        ((acceptedBackwards calls).findSome? (·[j]?)).getD m.memory.cells[0x200 + j]) ∧
    (∀ d, m.random.Gives d →
      (m.bare d).loadAll calls = (m.loadAll calls).bare d ∧
      ((m.bare d).loadAll calls).memory.length = 4096) := by
  refine ⟨load_exact, loadAll_keeps m calls, cells_loadAll_outside m calls,
    fun j hj => cells_loadAll_inside m calls hj, ?_⟩
  intro d hd
  rw [bare_loadAll hd calls]
  exact ⟨rfl, (BareMachine.wellFormed_bare (m.loadAll calls) d).length_memory⟩

/-- A program of three bytes, one of a single byte and a file that does not exist. -/
theorem loadAll_exact_shorter :
    let fs : Files := ⟨fun _ => .missing, fun _ => none⟩
    let calls : List LoadCall :=
      [⟨fs, .load [1, 2, 3], rfl⟩, ⟨fs, .load [9], rfl⟩, ⟨fs, .loadFile "none", rfl⟩]
    let m : Machine := new .standard (.tape (fun k => byteOfInt ((fun _ => 0 : Nat → Int) k)) 0)
    (m.loadAll calls).memory.cells[0x200] = 9 ∧ (m.loadAll calls).memory.cells[0x201] = 2 ∧
    (m.loadAll calls).memory.cells[0x203] = 0 ∧
    ((m.bare fun _ => 0).loadAll calls).memory.length = 4096 := by
  intro fs calls m
  obtain ⟨-, -, -, hinside, hbare⟩ := loadAll_exact m calls
  have hzero : m.memory.cells[0x203] = 0 := by decide +kernel
  refine ⟨hinside 0 (by decide), hinside 1 (by decide), ?_, ?_⟩
  · rw [← hzero]
    exact hinside 3 (by decide)
  · exact (hbare _ (RandomSource.gives_tape (fun _ => 0) 0)).2

/-- A name may have 255 letters, and no file of an empty directory has a name of 256. -/
theorem load_letters :
    let c : LoadCall := ⟨Directory.files [], .loadFile (letters 256), rfl⟩
    let m : Machine := new .standard (.tape (fun _ => 0) 0)
    c.offered? = none ∧ ∃ e, m.load c = (.error (.load e), m) ∧ e.errorClass? ≠ some .romFile := by
  intro c m
  have hsize : (letters 256).utf8ByteSize = 256 := utf8ByteSize_letters 256
  obtain ⟨hnone, e, hload, hclass⟩ := load_of_long (not_mem_letters 256 (by decide))
    (not_mem_letters 256 (by decide)) (by rw [hsize]; decide) (by rw [hsize]; decide) m [] rfl
  refine ⟨hnone, e, hload, ?_⟩
  rw [hclass]
  nofun

end Machine

end ChipEight
