import ChipEight.Proofs.PowerOn
import ChipEight.Proofs.Loading

/-!
# Programs in words

A program is written in words and kept in bytes. `Word.assemble` writes every word as two bytes, the
high one first, and `Word.fetch?` puts a word together from two cells of memory. The two meet in the
program region, where they undo each other (`Machine.fetch_assembled`): every address that names the
place of a word, in whichever copy of the 4096 cells, leads to what is left of the integer that was
written there, and a program of whole words is the image of the words that are fetched from it.
-/

namespace ChipEight

namespace Word

/-! ## Two bytes and a word -/

theorem high_ofBytes (hi lo : UInt8) : (ofBytes hi lo).high = hi := by
  have hhi := hi.toNat_lt
  have hlo := lo.toNat_lt
  rw [← UInt8.toNat_inj, high, UInt8.toNat_ofNat', toNat_ofBytes]
  omega

theorem nn_ofBytes (hi lo : UInt8) : (ofBytes hi lo).nn = lo := by
  have hlo := lo.toNat_lt
  rw [← UInt8.toNat_inj, nn, UInt8.toNat_ofNat', toNat_ofBytes]
  omega

theorem ofBytes_high_nn (w : Word) : ofBytes w.high w.nn = w := by
  have hw := w.toNat_lt
  rw [← UInt16.toNat_inj, toNat_ofBytes, high, nn, UInt8.toNat_ofNat', UInt8.toNat_ofNat']
  omega

/-! ## Images -/

theorem assemble_cons (n : Int) (ws : List Int) :
    assemble (n :: ws) = (ofInt n).high :: (ofInt n).nn :: assemble ws := rfl

theorem length_assemble (ws : List Int) : (assemble ws).length = 2 * ws.length := by
  induction ws with
  | nil => rfl
  | cons n ws ih =>
    rw [assemble_cons, List.length_cons, List.length_cons, ih, List.length_cons]
    omega

/-- Word `k` is at the places `2 * k` and `2 * k + 1` of an image. -/
theorem getElem?_assemble (ws : List Int) (k : Nat) :
    (assemble ws)[2 * k]? = ws[k]?.map (fun n => (ofInt n).high) ∧
      (assemble ws)[2 * k + 1]? = ws[k]?.map (fun n => (ofInt n).nn) := by
  induction ws generalizing k with
  | nil => exact ⟨rfl, rfl⟩
  | cons n ws ih =>
    cases k with
    | zero => exact ⟨rfl, rfl⟩
    | succ k =>
      show (assemble (n :: ws))[2 * k + 2]? = _ ∧ (assemble (n :: ws))[2 * k + 1 + 2]? = _
      simp only [assemble_cons, List.getElem?_cons_succ]
      exact ih k

/-- The words that an image is made of are the pairs of its bytes. -/
theorem ofBytes_getElem_assemble (ws : List Int) {k : Nat} (hk : k < ws.length)
    (hhi : 2 * k < (assemble ws).length) (hlo : 2 * k + 1 < (assemble ws).length) :
    ofBytes (assemble ws)[2 * k] (assemble ws)[2 * k + 1] = ofInt ws[k] := by
  obtain ⟨hhigh, hlow⟩ := getElem?_assemble ws k
  rw [List.getElem?_eq_getElem hhi, List.getElem?_eq_getElem hk] at hhigh
  rw [List.getElem?_eq_getElem hlo, List.getElem?_eq_getElem hk] at hlow
  rw [Option.some.inj hhigh, Option.some.inj hlow, ofBytes_high_nn]

/-- Bytes are the image of the words that their pairs make up. -/
theorem assemble_pairs {bytes : List UInt8} {ws : List Word}
    (hlength : bytes.length = 2 * ws.length)
    (hpairs : ∀ (k : Nat) (hk : k < ws.length) (hhi : 2 * k < bytes.length)
      (hlo : 2 * k + 1 < bytes.length), ws[k] = ofBytes bytes[2 * k] bytes[2 * k + 1]) :
    assemble (ws.map fun w => (w.toNat : Int)) = bytes := by
  have hword (k : Nat) (hk : k < ws.length) :
      (ws.map fun w => (w.toNat : Int))[k]? = some (ws[k].toNat : Int) := by
    rw [List.getElem?_map, List.getElem?_eq_getElem hk]
    rfl
  refine List.ext_getElem ?_ fun i hi hi' => Option.some.inj ?_
  · rw [length_assemble, List.length_map, hlength]
  · rw [← List.getElem?_eq_getElem hi]
    -- Every place is that of the high byte of some word or that of its low byte.
    obtain ⟨k, rfl | rfl⟩ := Nat.even_or_odd' i
    · have hk : k < ws.length := by omega
      rw [(getElem?_assemble _ k).1, hword k hk, Option.map_some, ofInt_toNat,
        hpairs k hk hi' (by omega), high_ofBytes]
    · have hk : k < ws.length := by omega
      rw [(getElem?_assemble _ k).2, hword k hk, Option.map_some, ofInt_toNat,
        hpairs k hk (by omega) hi', nn_ofBytes]

/-! ## Cells -/

theorem ofInt_add_one (a : Int) : ofInt (a + 1) = ofInt a + 1 := by
  have ha := toNat_ofInt a
  rw [ofInt_eq_iff, UInt16.toNat_add, UInt16.toNat_one]
  omega

/-- An address names the cell that its word selects. -/
theorem cellOf_eq (a : Int) : cellOf a = (cell (ofInt a)).val := by
  have ha := toNat_ofInt a
  simp only [cellOf, cell, Layout.memorySize]
  omega

/-- Fetching from all cells of a memory reads the word at the address. -/
theorem fetch?_cells (m : Memory) (a : Int) :
    fetch? m.cells.toArray a = some (m.word (ofInt a)) := by
  have hcell (b : Int) : m.cells.toArray[cellOf b]? = some (m.read (ofInt b)) := by
    rw [Vector.getElem?_toArray, cellOf_eq, Vector.getElem?_eq_getElem (cell (ofInt b)).isLt]
    rfl
  rw [fetch?, hcell a, hcell (a + 1), ofInt_add_one]
  rfl

/-- Words fetched one after the other, from an address on. -/
def fetchAll? (cells : Array UInt8) (start : Int) (n : Nat) : Option (List Word) :=
  (List.range n).mapM fun k : Nat => fetch? cells (start + 2 * k)

theorem fetchAll?_cells (m : Memory) (start : Int) (n : Nat) :
    fetchAll? m.cells.toArray start n =
      some ((List.range n).map fun k : Nat => m.word (ofInt (start + 2 * k))) := by
  simp only [fetchAll?, fetch?_cells]
  exact List.mapM_pure

end Word

/-! ## The program region -/

namespace Memory

variable (m : Memory) {bytes : List UInt8} (hfits : bytes.length ≤ 3215)
include hfits

/-- A byte of a program is read at every address that names its place. -/
theorem read_program {j : Nat} (hj : j < bytes.length) {a : Int} (ha : a ≡ 0x200 + j [ZMOD 4096]) :
    (m.writeAll (UInt16.ofNat Layout.programStart) bytes).read (Word.ofInt a) = bytes[j] := by
  have hstart : (UInt16.ofNat Layout.programStart).toNat = 0x200 := rfl
  have hplace : (cell (Word.ofInt a)).val = (UInt16.ofNat Layout.programStart).toNat + j := by
    have hword := Word.toNat_ofInt a
    have hmod : a % 4096 = (0x200 + j) % 4096 := ha
    simp only [cell, hstart]
    omega
  have hbyte := m.getElem_writeAll (UInt16.ofNat Layout.programStart) bytes (j := j)
    (by omega) (by omega)
  rw [List.getElem?_eq_getElem hj, Option.getD_some] at hbyte
  rw [← hbyte, read, Fin.getElem_fin]
  congr 1

/-- Two bytes that follow each other are read as a word. -/
theorem word_program {j : Nat} (hj : j + 1 < bytes.length) {a : Int}
    (ha : a ≡ 0x200 + j [ZMOD 4096]) :
    (m.writeAll (UInt16.ofNat Layout.programStart) bytes).word (Word.ofInt a) =
      Word.ofBytes bytes[j] bytes[j + 1] := by
  have hnext : a + 1 ≡ 0x200 + (j + 1 : Nat) [ZMOD 4096] := by
    rw [Nat.cast_add, Nat.cast_one, ← add_assoc]
    exact ha.add_right 1
  rw [word, ← Word.ofInt_add_one, read_program m hfits (by omega) ha, read_program m hfits hj hnext]

end Memory

/-! ## The bare machine -/

namespace BareMachine

/-- Only the low twelve bits of an address count. -/
theorem readWord_congr {a b : Int} (h : a ≡ b [ZMOD 4096]) : readWord a = readWord b := by
  have hcell {a b : Int} (h : a ≡ b [ZMOD 4096]) : readCell a = readCell b := by
    have hmod : cellOf a = cellOf b := h
    simp only [readCell, hmod]
  rw [readWord, readWord, hcell h, hcell (h.add_right 1)]

/-- The bare machine reads a word as it is fetched from all cells. -/
theorem run_readWord_ofInt (m : Machine) (d : Nat → Int) (a : Int) :
    (readWord a).run (m.bare d) = .ok (m.memory.word (Word.ofInt a)) (m.bare d) := by
  have hword : a ≡ (Word.ofInt a).toNat [ZMOD 4096] := by
    have hmod := Word.toNat_ofInt a
    show a % 4096 = ((Word.ofInt a).toNat : Int) % 4096
    omega
  rw [readWord_congr hword, run_readWord]

end BareMachine

/-! ## Writing and fetching -/

namespace Machine

theorem apply_load_of_fits (fs : Files) (m : Machine) {bytes : List UInt8}
    (hfits : bytes.length ≤ 3215) :
    m.apply fs (.load bytes) = (.ok .done, m.withProgram bytes) := by
  have hload := load_of_offered m (c := ⟨fs, .load bytes, rfl⟩) rfl
  rw [if_neg (Nat.not_lt.mpr hfits)] at hload
  exact hload

/-- The words of a program are read back from all addresses of their places. -/
theorem word_withProgram_assemble (m : Machine) {ws : List Int} (hfits : 2 * ws.length ≤ 3215)
    {k : Nat} (hk : k < ws.length) {a : Int} (ha : a ≡ 0x200 + 2 * k [ZMOD 4096]) :
    (m.withProgram (Word.assemble ws)).memory.word (Word.ofInt a) = Word.ofInt ws[k] := by
  have hlength := Word.length_assemble ws
  have hplace : a ≡ 0x200 + (2 * k : Nat) [ZMOD 4096] := by
    rw [Nat.cast_mul]
    exact ha
  have hbytes : (Word.assemble ws).length ≤ 3215 := by omega
  have hword := m.memory.word_program hbytes (by omega) hplace
  rw [Word.ofBytes_getElem_assemble ws hk] at hword
  exact hword

/-- The words that are fetched from the places of a program are those of its pairs of bytes. -/
theorem assemble_fetched (m : Machine) {bytes : List UInt8} (heven : bytes.length % 2 = 0)
    (hfits : bytes.length ≤ 3215) :
    ∃ ws, Word.fetchAll? (m.withProgram bytes).memory.cells.toArray 0x200 (bytes.length / 2) =
        some ws ∧
      Word.assemble (ws.map fun w => (w.toNat : Int)) = bytes := by
  refine ⟨_, Word.fetchAll?_cells _ _ _, Word.assemble_pairs ?_ ?_⟩
  · rw [List.length_map, List.length_range]
    omega
  · intro k hk _ hlo
    have hplace : (0x200 + 2 * k : Int) ≡ 0x200 + (2 * k : Nat) [ZMOD 4096] := by
      rw [Nat.cast_mul]
      rfl
    rw [List.getElem_map, List.getElem_range]
    exact m.memory.word_program hfits hlo hplace

/-- Every word of a program takes two bytes. If the program fits, it is loaded, and then every address
that is the same modulo 4096 as the place of a word leads to the low sixteen bits of the integer that was
written there. The other way round, a program of an even number of bytes is the image of the words that
are fetched from it. The bare machine loads and reads alike. -/
theorem fetch_assembled (fs : Files) :
    (∀ ws : List Int, (Word.assemble ws).length = 2 * ws.length) ∧
    (∀ (m : Machine) (ws : List Int), 2 * ws.length ≤ 3215 →
      ∃ m', m.apply fs (.load (Word.assemble ws)) = (.ok .done, m') ∧
        ∀ (k : Nat) (hk : k < ws.length) (a : Int), a ≡ 0x200 + 2 * k [ZMOD 4096] →
          ∃ w, Word.fetch? m'.memory.cells.toArray a = some w ∧
            { m' with pc := Word.ofInt a }.fetch = w ∧ (w.toNat : Int) = ws[k] % 0x10000) ∧
    (∀ (m : Machine) (bytes : List UInt8), bytes.length % 2 = 0 → bytes.length ≤ 3215 →
      ∃ m' ws, m.apply fs (.load bytes) = (.ok .done, m') ∧
        Word.fetchAll? m'.memory.cells.toArray 0x200 (bytes.length / 2) = some ws ∧
        Word.assemble (ws.map fun w => (w.toNat : Int)) = bytes) ∧
    (∀ (m : Machine) (d : Nat → Int), m.random.Gives d →
      (∀ bytes, (m.bare d).call ⟨fs, .load bytes⟩ = answer d (m.apply fs (.load bytes))) ∧
      ∀ a : Int, ∃ w, Word.fetch? m.memory.cells.toArray a = some w ∧
        (BareMachine.readWord a).run (m.bare d) = .ok w (m.bare d)) := by
  refine ⟨Word.length_assemble, ?_, ?_, ?_⟩
  · intro m ws hfits
    have hbytes : (Word.assemble ws).length ≤ 3215 := by rwa [Word.length_assemble]
    refine ⟨_, apply_load_of_fits fs m hbytes, ?_⟩
    intro k hk a ha
    have hword := word_withProgram_assemble m hfits hk ha
    refine ⟨Word.ofInt ws[k], ?_, hword, Word.toNat_ofInt ws[k]⟩
    rw [Word.fetch?_cells, hword]
  · intro m bytes heven hfits
    obtain ⟨ws, hfetched, hbytes⟩ := assemble_fetched m heven hfits
    exact ⟨_, ws, apply_load_of_fits fs m hfits, hfetched, hbytes⟩
  · intro m d hd
    refine ⟨fun bytes => BareMachine.run_apply m fs hd (.load bytes), fun a => ?_⟩
    exact ⟨_, Word.fetch?_cells m.memory a, BareMachine.run_readWord_ofInt m d a⟩

/-- A negative word and one of more than sixteen bits. The second one is read from below zero, and the
bytes of both give themselves back. -/
theorem fetch_assembled_mirrored :
    let fs : Files := ⟨fun _ => .missing, fun _ => none⟩
    let m : Machine := new .standard (.tape (fun k => byteOfInt ((fun _ => 0 : Nat → Int) k)) 0)
    (∃ m', m.apply fs (.load (Word.assemble [-1, 0x1A2F0])) = (.ok .done, m') ∧
      ∃ w, Word.fetch? m'.memory.cells.toArray (-0xDFE) = some w ∧ w.toNat = 0xA2F0) ∧
    (∃ m' ws, m.apply fs (.load [0xFF, 0xFF, 0xA2, 0xF0]) = (.ok .done, m') ∧
      Word.fetchAll? m'.memory.cells.toArray 0x200 2 = some ws ∧
      Word.assemble (ws.map fun w => (w.toNat : Int)) = [0xFF, 0xFF, 0xA2, 0xF0]) ∧
    (∃ w, (BareMachine.readWord (-0xDFE)).run (m.bare fun _ => 0) = .ok w (m.bare fun _ => 0)) := by
  intro fs m
  obtain ⟨-, hwrite, hread, hbare⟩ := fetch_assembled fs
  refine ⟨?_, hread m [0xFF, 0xFF, 0xA2, 0xF0] rfl (by decide), ?_⟩
  · obtain ⟨m', hload, hfetch⟩ := hwrite m [-1, 0x1A2F0] (by decide)
    obtain ⟨w, hw, -, hvalue⟩ := hfetch 1 (by decide) (-0xDFE) (by decide)
    refine ⟨m', hload, w, hw, ?_⟩
    exact Int.ofNat_inj.mp hvalue
  · obtain ⟨w, -, hw⟩ := (hbare m _ (RandomSource.gives_tape (fun _ => 0) 0)).2 (-0xDFE)
    exact ⟨w, hw⟩

end Machine

end ChipEight
