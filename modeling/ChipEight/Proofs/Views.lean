import ChipEight.Machine.Panel
import ChipEight.Proofs.Drawing
import ChipEight.Proofs.Report
import Mathlib

/-!
# Views of a grid

A grid can be looked at as a picture, as numbers, as text, by counting, and as part of the debug panel.
Every view shows at each of its places whether one pixel is lit (`Grid.views_agree`): a picture shows the
pixel that a place falls on when it is divided by the size of a pixel, a text has the pixels inside its
frame, and the panel has the picture inside its border.
-/

namespace ChipEight

namespace Picture

variable {w h : Nat}

/-! ## Pictures, place by place -/

theorem colour?_of_lt (p : Picture w h) {x y : Nat} (hx : x < w) (hy : y < h) :
    p.colour? x y = some p.rows[y][x] := by
  simp [colour?, hx, hy]

/-- There are no colours outside a picture. -/
theorem colour?_outside (p : Picture w h) {x y : Nat} (hout : ¬(x < w ∧ y < h)) :
    p.colour? x y = none := by
  by_cases hy : y < h
  · have hx : ¬x < w := fun hx => hout ⟨hx, hy⟩
    simp [colour?, hy, hx]
  · simp [colour?, hy]

theorem getElem_stretch {α : Type} {n : Nat} (z : Nat) (v : Vector α n) {i : Nat}
    (hi : i < n * z) (hdiv : i / z < n) : (stretch z v)[i] = v[i / z] := by
  simp [stretch, Vector.get]

theorem getElem_rows_magnify (z : Nat) (p : Picture w h) {x y : Nat} (hx : x < w * z)
    (hy : y < h * z) (hxz : x / z < w) (hyz : y / z < h) :
    (p.magnify z).rows[y][x] = p.rows[y / z][x / z] := by
  have hrow : (p.magnify z).rows[y] = stretch z p.rows[y / z] := by
    simp only [magnify, getElem_stretch z _ hy hyz, Vector.getElem_map]
  rw [hrow, getElem_stretch z _ hx hxz]

/-- A place of a magnified picture shows the pixel that it falls on. -/
theorem colour?_magnify {z : Nat} (hz : 0 < z) (p : Picture w h) (x y : Nat) :
    (p.magnify z).colour? x y = p.colour? (x / z) (y / z) := by
  by_cases hin : x / z < w ∧ y / z < h
  · have hx : x < w * z := (Nat.div_lt_iff_lt_mul hz).mp hin.1
    have hy : y < h * z := (Nat.div_lt_iff_lt_mul hz).mp hin.2
    rw [colour?_of_lt _ hx hy, colour?_of_lt p hin.1 hin.2,
      getElem_rows_magnify z p hx hy hin.1 hin.2]
  · have hout : ¬(x < w * z ∧ y < h * z) := by
      rwa [← Nat.div_lt_iff_lt_mul hz, ← Nat.div_lt_iff_lt_mul hz]
    rw [colour?_outside _ hout, colour?_outside p hin]

theorem colour?_plain {c : Colour} {x y : Nat} (hx : x < w) (hy : y < h) :
    (plain w h c).colour? x y = some c := by
  rw [colour?_of_lt _ hx hy]
  simp [plain]

theorem getElem_rows_paste {w' h' : Nat} (base : Picture w h) (left top : Nat)
    (p : Picture w' h') {x y : Nat} (hx : x < w) (hy : y < h) :
    (base.paste left top p).rows[y][x] =
      if top ≤ y ∧ y < top + h' ∧ left ≤ x then
        (p.colour? (x - left) (y - top)).getD base.rows[y][x]
      else base.rows[y][x] := by
  simp only [paste, Vector.getElem_mapFinIdx]
  by_cases hrow : top ≤ y ∧ y < top + h'
  · simp only [hrow, and_self, true_and, if_true, Vector.getElem_mapFinIdx]
    by_cases hleft : x < left
    · rw [if_pos hleft, if_neg (Nat.not_le.mpr hleft)]
    · rw [if_neg hleft, if_pos (Nat.not_lt.mp hleft)]
  · have hnot : ¬(top ≤ y ∧ y < top + h' ∧ left ≤ x) := fun hin => hrow ⟨hin.1, hin.2.1⟩
    simp only [if_neg hrow, if_neg hnot]

/-- A picture that is pasted covers what is there, as far as it reaches. -/
theorem colour?_paste {w' h' : Nat} (base : Picture w h) (left top : Nat) (p : Picture w' h')
    {x y : Nat} (hx : x < w) (hy : y < h) :
    (base.paste left top p).colour? x y =
      if left ≤ x ∧ x < left + w' ∧ top ≤ y ∧ y < top + h' then p.colour? (x - left) (y - top)
      else base.colour? x y := by
  rw [colour?_of_lt _ hx hy, colour?_of_lt base hx hy, getElem_rows_paste base left top p hx hy]
  by_cases hcorner : top ≤ y ∧ y < top + h' ∧ left ≤ x
  · obtain ⟨htop, hbottom, hleft⟩ := hcorner
    rw [if_pos ⟨htop, hbottom, hleft⟩]
    by_cases hright : x < left + w'
    · have hinner := colour?_of_lt p (x := x - left) (y := y - top) (by omega) (by omega)
      rw [if_pos ⟨hleft, hright, htop, hbottom⟩, hinner, Option.getD_some]
    · have houter := colour?_outside p (x := x - left) (y := y - top) (by omega)
      rw [if_neg fun hin => hright hin.2.1, houter, Option.getD_none]
  · rw [if_neg hcorner, if_neg fun hin => hcorner ⟨hin.2.2.1, hin.2.2.2, hin.1⟩]

end Picture

namespace Grid

variable {w h : Nat}

/-! ## The grid in other forms -/

theorem lit_of_lt (g : Grid w h) {x y : Nat} (hx : x < w) (hy : y < h) :
    g.lit x y = g.rows[y][x] := by
  simp [lit, hx, hy]

/-- A position on the grid does not wrap. -/
theorem pixel_of_lt (g : Grid w h) {x y : Nat} (hx : x < w) (hy : y < h) :
    g.pixel x y = g.lit x y := by
  have hwrap {a n : Nat} (ha : a < n) : wrap a n = a := by
    rw [wrap, ← Int.natCast_mod, Int.toNat_natCast, Nat.mod_eq_of_lt ha]
  rw [pixel, hwrap hx, hwrap hy]

theorem colour?_picture (g : Grid w h) (on off : Colour) {x y : Nat} (hx : x < w) (hy : y < h) :
    (g.picture on off).colour? x y = some (if g.pixel x y then on else off) := by
  rw [Picture.colour?_of_lt _ hx hy, pixel_of_lt g hx hy, lit_of_lt g hx hy]
  simp [picture]

/-- The picture of a grid shows at each place the pixel that it falls on. -/
theorem colour?_image (g : Grid w h) {zoom : Nat} (hzoom : 0 < zoom) (on off : Colour)
    (x y : Nat) :
    (g.image zoom on off).colour? x y =
      if x < w * zoom ∧ y < h * zoom then
        some (if g.pixel (x / zoom : Nat) (y / zoom : Nat) then on else off)
      else none := by
  rw [image]
  by_cases hin : x < w * zoom ∧ y < h * zoom
  · have hx : x / zoom < w := (Nat.div_lt_iff_lt_mul hzoom).mpr hin.1
    have hy : y / zoom < h := (Nat.div_lt_iff_lt_mul hzoom).mpr hin.2
    rw [if_pos hin, Picture.colour?_magnify hzoom, colour?_picture g on off hx hy]
  · rw [if_neg hin, Picture.colour?_outside _ hin]

theorem getElem?_buffer (g : Grid w h) {x y : Nat} (hx : x < w) (hy : y < h) :
    g.buffer[y]?.bind (·[x]?) = some (if g.pixel x y then 1 else 0) := by
  rw [pixel_of_lt g hx hy, lit_of_lt g hx hy]
  simp [buffer, hx, hy]

/-- A line of the text shows a row of pixels inside its frame. -/
theorem getElem?_lines (g : Grid w h) (on off : Char) {x y : Nat} (hx : x < w) (hy : y < h) :
    ((g.lines (String.singleton on) (String.singleton off))[y + 1]?.bind (·.toList[x + 1]?)) =
      some (if g.pixel x y then on else off) := by
  have hrow : (g.lines (String.singleton on) (String.singleton off))[y + 1]? =
      some (rowText (String.singleton on) (String.singleton off) g.rows[y]) := by
    simp [lines, List.getElem?_append, hy]
  rw [hrow, Option.bind_some, toList_rowText, pixel_of_lt g hx hy, lit_of_lt g hx hy]
  simp [List.getElem?_append, hx]

/-- The same in the text as a whole, cut at its line ends. -/
theorem getElem?_splitOn_text (g : Grid w h) {on off : Char} (hon : '\n' ≠ on) (hoff : '\n' ≠ off)
    {x y : Nat} (hx : x < w) (hy : y < h) :
    ((g.text (String.singleton on) (String.singleton off)).toList.splitOn '\n')[y + 1]?.bind
        (·[x + 1]?) =
      some (if g.pixel x y then on else off) := by
  have hline := not_mem_lines (by decide : '\n' ∉ ['+', '-', '|']) hon hoff g
  rw [text_eq_intercalate, Texts.splitOn_intercalate rfl (g.lines_ne_nil _ _) hline,
    List.getElem?_map, Option.bind_map, ← getElem?_lines g on off hx hy]
  rfl

open Finset in
/-- The count of a grid is the number of its lit pixels. -/
theorem litCount_eq_card_pixel (g : Grid w h) :
    g.litCount = #{p ∈ range w ×ˢ range h | g.pixel p.1 p.2} := by
  rw [litCount_eq_card, litPixels]
  refine congrArg card (filter_congr fun p hp => ?_)
  rw [mem_product, mem_range, mem_range] at hp
  rw [pixel_of_lt g hp.1 hp.2]

end Grid

namespace Panel

/-! ## The debug panel -/

/-- The panel shows the display inside its border, and white around it. -/
theorem colour?_picture (m : Machine) (r : Renderer) {x y : Nat} (hx : x < width r)
    (hy : y < height r) :
    (picture m r).colour? x y =
      if border ≤ x ∧ x < border + Layout.displayWidth * r.scale ∧
          border ≤ y ∧ y < border + Layout.displayHeight * r.scale then
        (r.render m.display).colour? (x - border) (y - border)
      else some .white := by
  rw [picture, Picture.colour?_paste _ _ _ _ hx hy, Picture.colour?_plain hx hy]

end Panel

open Finset in
/-- However a grid with pixels has come about, its views show the same. Its picture with pixels of any
size can be made, by itself and by a renderer, and each place in it has the colour of the pixel that it
falls on; with pixels of size 1 it is the grid itself. The number of a pixel is 1, and its character
inside the frame of the text is `#`, if and only if it is lit, and the count is the number of the lit
ones. The debug panel of any machine shows the picture of the display at column 10 of row 10, and white
everywhere else. -/
theorem Grid.views_agree {w h : Nat} (hw : 1 ≤ w) (hh : 1 ≤ h) (g : Grid w h) (zoom : Nat)
    (hzoom : 1 ≤ zoom) (on off : Colour) :
    let r : Renderer := ⟨zoom, off, on⟩
    Grid.canMagnify w h zoom = true ∧ Renderer.make? zoom off on = some r ∧
    (∀ x y, (g.image zoom on off).colour? x y =
      if x < w * zoom ∧ y < h * zoom then
        some (if g.pixel (x / zoom : Nat) (y / zoom : Nat) then on else off)
      else none) ∧
    (∀ x y, (r.render g).colour? x y = (g.image zoom on off).colour? x y) ∧
    (∀ x y, (g.image 1 on off).colour? x y = (g.picture on off).colour? x y) ∧
    (∀ x < w, ∀ y < h,
      g.buffer[y]?.bind (·[x]?) = some (if g.pixel x y then 1 else 0) ∧
      ((g.text "#" " ").toList.splitOn '\n')[y + 1]?.bind (·[x + 1]?) =
        some (if g.pixel x y then '#' else ' ')) ∧
    g.litCount = #{p ∈ range w ×ˢ range h | g.pixel p.1 p.2} ∧
    ∀ m : Machine,
      (∀ x < 64 * zoom, ∀ y < 32 * zoom,
        (Panel.picture m r).colour? (10 + x) (10 + y) = (r.render m.display).colour? x y) ∧
      ∀ x < Panel.width r, ∀ y < Panel.height r,
        ¬(10 ≤ x ∧ x < 10 + 64 * zoom ∧ 10 ≤ y ∧ y < 10 + 32 * zoom) →
          (Panel.picture m r).colour? x y = some .white := by
  intro r
  have hlit : "#" = String.singleton '#' := rfl
  have hdark : " " = String.singleton ' ' := rfl
  rw [hlit, hdark]
  refine ⟨?_, ?_, g.colour?_image hzoom on off, fun _ _ => rfl, fun x y => ?_, fun x hx y hy => ?_,
    g.litCount_eq_card_pixel, fun m => ⟨?_, ?_⟩⟩
  · simp [Grid.canMagnify]
    omega
  · have hscale : ¬(zoom : Int) < 1 := by omega
    rw [Renderer.make?, if_neg hscale, Int.toNat_natCast]
  · rw [Grid.image, Picture.colour?_magnify Nat.one_pos, Nat.div_one, Nat.div_one]
  · exact ⟨g.getElem?_buffer hx hy, g.getElem?_splitOn_text (by decide) (by decide) hx hy⟩
  · intro x hx y hy
    have hwidth : 10 + x < Panel.width r := by
      simp only [Panel.width, Layout.displayWidth, Panel.border, r]
      omega
    have hheight : 10 + y < Panel.height r := by
      simp only [Panel.height, Layout.displayHeight, Panel.border, r]
      omega
    rw [Panel.colour?_picture m r hwidth hheight]
    simp [Panel.border, Layout.displayWidth, Layout.displayHeight, r, hx, hy]
  · intro x hx y hy hout
    rw [Panel.colour?_picture m r hx hy]
    exact if_neg hout

/-- A grid of three columns and two rows whose last pixel alone is lit, with pixels of size 2: columns
and rows are not confused, and the last place of the picture has the colour of the last pixel. -/
theorem Grid.views_agree_wide :
    let g : Grid 3 2 := (Grid.dark.draw (-1) 3 [0x80]).2
    let picture := g.image 2 .black .white
    picture.colour? 5 3 = some .black ∧ picture.colour? 3 3 = some .white ∧
    picture.colour? 3 5 = none ∧ g.buffer[1]?.bind (·[2]?) = some 1 ∧
    ((g.text "#" " ").toList.splitOn '\n')[2]?.bind (·[3]?) = some '#' ∧ g.litCount = 1 := by
  intro g picture
  have hlast : g.pixel 2 1 = true := by decide +kernel
  have hbefore : g.pixel 1 1 = false := by decide +kernel
  obtain ⟨-, -, himage, -, -, hplaces, hcount, -⟩ :=
    Grid.views_agree (by decide) (by decide) g 2 (by decide) .black .white
  obtain ⟨hbuffer, htext⟩ := hplaces 2 (by decide) 1 (by decide)
  refine ⟨?_, ?_, ?_, ?_, ?_, ?_⟩
  · exact (himage 5 3).trans (by simp [hlast])
  · exact (himage 3 3).trans (by simp [hbefore])
  · exact (himage 3 5).trans (by simp)
  · exact hbuffer.trans (by simp [hlast])
  · exact htext.trans (by simp [hlast])
  · exact hcount.trans (by decide +kernel)

end ChipEight
