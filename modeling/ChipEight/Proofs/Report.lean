import ChipEight.Machine.Report
import ChipEight.Proofs.Texts

/-!
# What a report shows

A report is a list of lines: those of the display, and those of the rest of the state. No line has a
line end in it, so the report gives back the list (`report_eq_iff_lines`), and every line gives back
the values that it shows. Numbers are read back by their digits, which nothing cuts off; the dash
that stands for an empty stack is no digit.
-/

namespace ChipEight

namespace Grid

/-! ## The display -/

variable {w h : Nat} {on off c : Char}

/-- The lines of a grid as text. -/
def lines (g : Grid w h) (onText offText : String) : List String :=
  [border w] ++ g.rows.toList.map (rowText onText offText) ++ [border w]

theorem text_eq_intercalate (g : Grid w h) (onText offText : String) :
    g.text onText offText = "\n".intercalate (g.lines onText offText) := rfl

theorem lines_ne_nil (g : Grid w h) (onText offText : String) : g.lines onText offText ≠ [] :=
  List.append_ne_nil_of_right_ne_nil _ (List.cons_ne_nil _ [])

theorem length_lines (g : Grid w h) (onText offText : String) :
    (g.lines onText offText).length = h + 2 := by
  simp [lines]

theorem toList_border (w : Nat) : (border w).toList = '+' :: List.replicate w '-' ++ ['+'] := by
  simp [border]

theorem toList_rowText (row : Vector Bool w) :
    (rowText (String.singleton on) (String.singleton off) row).toList =
      '|' :: row.toList.map (fun p => if p then on else off) ++ ['|'] := by
  have hpixel (p : Bool) :
      (if p then String.singleton on else String.singleton off).toList =
        [if p then on else off] := by
    cases p <;> exact String.toList_singleton _
  have hpixels : (String.join (row.toList.map fun p =>
      if p then String.singleton on else String.singleton off)).toList =
        row.toList.map fun p => if p then on else off := by
    rw [String.toList_join, List.flatMap_map, List.map_eq_flatMap]
    simp only [hpixel]
  simp [rowText, hpixels]

/-- A row of text gives back its pixels when they are shown by two characters. -/
theorem rowText_inj (hne : on ≠ off) {row row' : Vector Bool w} :
    rowText (String.singleton on) (String.singleton off) row =
      rowText (String.singleton on) (String.singleton off) row' ↔ row = row' := by
  have hpixel : ∀ p q : Bool, (if p then on else off) = (if q then on else off) → p = q := by
    intro p q hpq
    cases p <;> cases q <;> first | rfl | exact absurd hpq hne | exact absurd hpq.symm hne
  rw [← String.toList_inj, toList_rowText, toList_rowText, List.append_cancel_right_eq,
    List.cons.injEq, List.map_inj_right hpixel, Vector.toList_inj]
  exact and_iff_right rfl

theorem lines_inj (hne : on ≠ off) {g g' : Grid w h} :
    g.lines (String.singleton on) (String.singleton off) =
      g'.lines (String.singleton on) (String.singleton off) ↔ g = g' := by
  rw [lines, lines, List.append_cancel_right_eq, List.append_cancel_left_eq,
    List.map_inj_right fun _ _ => (rowText_inj hne).mp, Vector.toList_inj]
  obtain ⟨rows⟩ := g
  obtain ⟨rows'⟩ := g'
  rw [mk.injEq]

/-- Nothing but the frame and the two characters of pixels is in the lines. -/
theorem not_mem_lines (hframe : c ∉ ['+', '-', '|']) (hon : c ≠ on) (hoff : c ≠ off)
    (g : Grid w h) :
    ∀ l ∈ g.lines (String.singleton on) (String.singleton off), c ∉ l.toList := by
  simp only [List.mem_cons, List.not_mem_nil, or_false, not_or] at hframe
  obtain ⟨hplus, hdash, hbar⟩ := hframe
  have hborder : c ∉ (border w).toList := by
    simp [toList_border, hplus, hdash]
  intro l hl
  rw [lines, List.mem_append, List.mem_append, List.mem_singleton, List.mem_map] at hl
  rcases hl with (rfl | ⟨row, -, rfl⟩) | rfl
  · exact hborder
  · rw [toList_rowText]
    have hpixel (p : Bool) : (if p then on else off) ≠ c := by
      cases p
      · exact hoff.symm
      · exact hon.symm
    simp [hbar, hpixel]
  · exact hborder

end Grid

namespace Machine

variable {m n : Machine}

/-! ## Registers -/

theorem registerText_inj {r : Register} :
    m.registerText r = n.registerText r ↔ m.reg r = n.reg r := by
  rw [registerText, registerText, String.append_right_inj, Hex.lower_inj, UInt8.toNat_inj]

theorem length_lower_byte (b : UInt8) : (Hex.lower 2 b.toNat).length = 2 :=
  Hex.length_lower (by decide) b.toNat_lt

theorem length_registerText (m : Machine) (r : Register) : (m.registerText r).length = 8 := by
  have hname : ∀ r : Register, ("[V" ++ Hex.upper 1 r.val ++ "]: ").length = 6 := by decide
  rw [registerText, String.length_append, hname r, length_lower_byte]

/-- A line of registers gives back the four registers. -/
theorem registerLine_inj {first : Nat} :
    m.registerLine first = n.registerLine first ↔
      ∀ k < 4, m.reg (.ofNat (first + k)) = n.reg (.ofNat (first + k)) := by
  have hlengths (m : Machine) :
      ((List.range 4).map fun k => m.registerText (.ofNat (first + k))).map String.length =
        (List.range 4).map fun _ => 8 := by
    simp only [List.map_map, Function.comp_def, length_registerText]
  rw [registerLine, registerLine,
    Texts.intercalate_inj_of_lengths ((hlengths m).trans (hlengths n).symm), List.map_inj_left]
  simp only [List.mem_range, registerText_inj]

/-! ## Saved addresses -/

/-- The saved addresses as texts. -/
def frameTexts (m : Machine) : List String := m.stack.frames.map fun a => Hex.lower 4 a.toNat

theorem framesText_of_nil (hm : m.stack.frames = []) : m.framesText = "-" := by
  rw [framesText, hm]

theorem framesText_of_ne_nil (hm : m.stack.frames ≠ []) :
    m.framesText = " ".intercalate m.frameTexts := by
  rw [framesText, frameTexts]
  split
  case h_1 hnil => exact absurd hnil hm
  case h_2 => rfl

theorem frameTexts_ne_nil (hm : m.stack.frames ≠ []) : m.frameTexts ≠ [] :=
  mt List.map_eq_nil_iff.mp hm

theorem not_mem_frameTexts {c : Char} (hc : Hex.digit? c = none) :
    ∀ l ∈ m.frameTexts, c ∉ l.toList := by
  rw [frameTexts, List.forall_mem_map]
  exact fun a _ => Hex.not_mem_lower hc

/-- The dash of an empty stack is no address. -/
theorem dash_ne_framesText (hm : m.stack.frames ≠ []) : "-" ≠ m.framesText := by
  have hdash : '-' ∉ m.framesText.toList := by
    rw [framesText_of_ne_nil hm]
    exact Texts.not_mem_intercalate (by decide) (not_mem_frameTexts (by decide))
  intro h
  rw [← h] at hdash
  exact hdash (by decide)

theorem framesText_inj : m.framesText = n.framesText ↔ m.stack.frames = n.stack.frames := by
  by_cases hm : m.stack.frames = []
  · by_cases hn : n.stack.frames = []
    · simp only [framesText_of_nil hm, framesText_of_nil hn, hm, hn]
    · rw [framesText_of_nil hm, hm]
      exact iff_of_false (dash_ne_framesText hn) (Ne.symm hn)
  · by_cases hn : n.stack.frames = []
    · rw [framesText_of_nil hn, hn]
      exact iff_of_false (dash_ne_framesText hm).symm hm
    · rw [framesText_of_ne_nil hm, framesText_of_ne_nil hn,
        Texts.intercalate_inj_of_not_mem " " ' ' rfl
          (frameTexts_ne_nil hm) (frameTexts_ne_nil hn)
          (not_mem_frameTexts (by decide)) (not_mem_frameTexts (by decide)),
        frameTexts, frameTexts,
        List.map_inj_right fun _ _ h => UInt16.toNat_inj.mp (Hex.lower_inj.mp h)]

/-! ## The report -/

/-- The lines below the display. -/
def stateLines (m : Machine) : List String := [
  "",
  registerTitle,
  m.registerLine 0x0,
  m.registerLine 0x4,
  m.registerLine 0x8,
  m.registerLine 0xC,
  "[I]: " ++ Hex.lower 4 m.i.toNat,
  "[PC]: " ++ Hex.lower 4 m.pc.toNat,
  "[SP]: " ++ Hex.lower 4 m.stack.depth.val,
  "[Stack]: " ++ m.framesText,
  "",
  "[Timer delay]: " ++ Hex.lower 2 m.delay.toNat ++
    "  [Timer sound]: " ++ Hex.lower 2 m.sound.toNat,
  Grid.border Layout.displayWidth]

/-- All lines. -/
def reportLines (m : Machine) : List String :=
  m.display.lines (String.singleton '#') (String.singleton ' ') ++ m.stateLines

theorem reportLines_ne_nil (m : Machine) : m.reportLines ≠ [] :=
  List.append_ne_nil_of_left_ne_nil (m.display.lines_ne_nil _ _) _

theorem report_eq_intercalate (m : Machine) : m.report = "\n".intercalate m.reportLines := by
  have hon : "#" = String.singleton '#' := rfl
  have hoff : " " = String.singleton ' ' := rfl
  have hstate : m.stateLines ≠ [] := List.cons_ne_nil _ _
  rw [reportLines, String.intercalate_append_of_ne_nil (m.display.lines_ne_nil _ _) hstate,
    ← Grid.text_eq_intercalate, ← String.intercalate_cons_of_ne_nil hstate, ← hon, ← hoff]
  rfl

theorem newline_not_mem_stateLines (m : Machine) : ∀ l ∈ m.stateLines, '\n' ∉ l.toList := by
  have hnumber (width k : Nat) : '\n' ∉ (Hex.lower width k).toList := Hex.not_mem_lower (by decide)
  have hname : ∀ r : Register, '\n' ∉ ("[V" ++ Hex.upper 1 r.val ++ "]: ").toList := by decide
  have hregisters (first : Nat) : '\n' ∉ (m.registerLine first).toList := by
    refine Texts.not_mem_intercalate (by decide) (List.forall_mem_map.mpr fun k _ => ?_)
    rw [registerText, String.toList_append, List.mem_append, not_or]
    exact ⟨hname _, hnumber _ _⟩
  have hframes : '\n' ∉ m.framesText.toList := by
    by_cases hm : m.stack.frames = []
    · rw [framesText_of_nil hm]
      decide
    · rw [framesText_of_ne_nil hm]
      exact Texts.not_mem_intercalate (by decide) (not_mem_frameTexts (by decide))
  have htitle : '\n' ∉ registerTitle.toList := by decide
  have hborder : '\n' ∉ (Grid.border Layout.displayWidth).toList := by decide
  simp [stateLines, hnumber, hregisters, hframes, htitle, hborder]

theorem newline_not_mem_reportLines (m : Machine) : ∀ l ∈ m.reportLines, '\n' ∉ l.toList := by
  rw [reportLines, List.forall_mem_append]
  exact ⟨m.display.not_mem_lines (by decide) (by decide) (by decide), newline_not_mem_stateLines m⟩

/-- The report gives back its lines, those of the display and the others. -/
theorem report_eq_iff_lines :
    m.report = n.report ↔ m.display = n.display ∧ m.stateLines = n.stateLines := by
  rw [report_eq_intercalate, report_eq_intercalate,
    Texts.intercalate_inj_of_not_mem "\n" '\n' rfl m.reportLines_ne_nil
      n.reportLines_ne_nil m.newline_not_mem_reportLines n.newline_not_mem_reportLines,
    reportLines, reportLines]
  constructor
  · intro h
    obtain ⟨hdisplay, hstate⟩ := List.append_inj h (by rw [Grid.length_lines, Grid.length_lines])
    exact ⟨(Grid.lines_inj (by decide)).mp hdisplay, hstate⟩
  · rintro ⟨hdisplay, hstate⟩
    rw [hdisplay, hstate]

/-- All registers are in the four lines. -/
theorem registerLines_inj :
    (∀ first ∈ [0x0, 0x4, 0x8, 0xC], m.registerLine first = n.registerLine first) ↔
      ∀ r, m.reg r = n.reg r := by
  simp only [registerLine_inj]
  constructor
  · intro h r
    have hr := r.isLt
    have hfirst : 4 * (r.val / 4) ∈ [0x0, 0x4, 0x8, 0xC] := by
      simp only [List.mem_cons, List.not_mem_nil, or_false]
      omega
    have hreg := h (4 * (r.val / 4)) hfirst (r.val % 4) (Nat.mod_lt _ (by decide))
    rwa [Nat.div_add_mod, Nibble.ofNat_val] at hreg
  · exact fun h _ _ _ _ => h _

theorem stateLines_inj :
    m.stateLines = n.stateLines ↔
      (∀ r, m.reg r = n.reg r) ∧ m.i = n.i ∧ m.pc = n.pc ∧ m.stack.depth = n.stack.depth ∧
        m.stack.frames = n.stack.frames ∧ m.delay = n.delay ∧ m.sound = n.sound := by
  have htimers :
      "[Timer delay]: " ++ Hex.lower 2 m.delay.toNat ++ "  [Timer sound]: " ++
          Hex.lower 2 m.sound.toNat =
        "[Timer delay]: " ++ Hex.lower 2 n.delay.toNat ++ "  [Timer sound]: " ++
          Hex.lower 2 n.sound.toNat ↔ m.delay = n.delay ∧ m.sound = n.sound := by
    rw [Texts.append_inj (by simp only [String.length_append, length_lower_byte]),
      String.append_left_inj, String.append_right_inj, Hex.lower_inj, Hex.lower_inj,
      UInt8.toNat_inj, UInt8.toNat_inj]
  rw [← registerLines_inj]
  simp only [stateLines, List.cons.injEq, htimers, String.append_right_inj, Hex.lower_inj,
    UInt16.toNat_inj, Fin.val_inj, framesText_inj, List.forall_mem_cons, List.not_mem_nil,
    false_imp_iff, implies_true, and_true, true_and, and_assoc]

/-- Machines have the same report just when they agree in all that a report shows: the pixels of the
display, the registers, the saved addresses and their number, and the timers. -/
theorem report_eq_iff :
    m.report = n.report ↔
      (∀ x y, m.display.lit x y = n.display.lit x y) ∧ (∀ r, m.reg r = n.reg r) ∧ m.i = n.i ∧
        m.pc = n.pc ∧ m.stack.depth = n.stack.depth ∧ m.stack.frames = n.stack.frames ∧
        m.delay = n.delay ∧ m.sound = n.sound := by
  have hdisplay : m.display = n.display ↔ ∀ x y, m.display.lit x y = n.display.lit x y :=
    ⟨fun h x y => by rw [h], fun h => Grid.ext_lit fun x y _ _ => h x y⟩
  rw [report_eq_iff_lines, hdisplay, stateLines_inj]

end Machine

end ChipEight
