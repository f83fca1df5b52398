import ChipEight.Text.Utf8

/-!
# UTF-8 there and back

The bytes of a text are decoded to the text. A character beyond the first 128 is a lead byte, which
says how many bytes follow, and that many trailing bytes with six bits each.
-/

namespace ChipEight.Text

/-- The UTF-8 bytes of a text. -/
def utf8 (text : String) : List UInt8 := text.toUTF8.data.toList

theorem utf8_eq_flatMap (text : String) : utf8 text = text.toList.flatMap String.utf8EncodeChar := by
  rw [utf8, String.toUTF8_eq_toByteArray, ← String.utf8Encode_toList, List.utf8Encode,
    List.data_toByteArray]

/-! ## One character -/

/-- A trailing byte with the last six bits of a number. -/
def trailing (n : Nat) : UInt8 := UInt8.ofNat (n % 0x40 + 0x80)

theorem toNat_trailing (n : Nat) : (trailing n).toNat = n % 0x40 + 0x80 := by
  rw [trailing, UInt8.toNat_ofNat']
  omega

theorem continuationRun_trailing (n k : Nat) {low high : UInt8} (bs : List UInt8)
    (hlow : low.toNat ≤ k % 0x40 + 0x80) (hhigh : k % 0x40 + 0x80 ≤ high.toNat) :
    continuationRun (n + 1) low high (trailing k :: bs) =
      trailing k :: continuationRun n 0x80 0xBF bs := by
  rw [continuationRun, if_pos]
  rw [UInt8.le_iff_toNat_le, UInt8.le_iff_toNat_le, toNat_trailing]
  exact ⟨hlow, hhigh⟩

theorem continuationRun_trailing_any (n k : Nat) (bs : List UInt8) :
    continuationRun (n + 1) 0x80 0xBF (trailing k :: bs) =
      trailing k :: continuationRun n 0x80 0xBF bs := by
  have h1 : (0x80 : UInt8).toNat = 0x80 := rfl
  have h2 : (0xBF : UInt8).toNat = 0xBF := rfl
  exact continuationRun_trailing n k bs (by omega) (by omega)

theorem continuation?_of_one : ∀ k < 0x80, continuation? (UInt8.ofNat k) = some (0, 0x80, 0xBF) := by
  decide

theorem continuation?_of_two :
    ∀ k < 0x20, 2 ≤ k → continuation? (UInt8.ofNat (k + 0xC0)) = some (1, 0x80, 0xBF) := by
  decide

theorem continuation?_of_three : ∀ k < 0x10, continuation? (UInt8.ofNat (k + 0xE0)) =
    some (2, if k = 0 then 0xA0 else 0x80, if k = 0xD then 0x9F else 0xBF) := by
  decide

theorem continuation?_of_four : ∀ k < 5, continuation? (UInt8.ofNat (k + 0xF0)) =
    some (3, if k = 0 then 0x90 else 0x80, if k = 4 then 0x8F else 0xBF) := by
  decide

/-- The bytes of a character: the first one announces the others, and together they hold its
number. -/
structure Encodes (c : Char) (b : UInt8) (run : List UInt8) (low high : UInt8) : Prop where
  announced : continuation? b = some (run.length, low, high)
  continued (bs : List UInt8) : continuationRun run.length low high (run ++ bs) = run
  number : codePoint b run = c.toNat

theorem encodes_one {c : Char} (h : c.toNat < 0x80) :
    Encodes c (UInt8.ofNat c.toNat) [] 0x80 0xBF where
  announced := continuation?_of_one c.toNat h
  continued _ := rfl
  number := by
    simp only [codePoint, List.length_nil, List.foldl_nil, UInt8.toNat_ofNat']
    omega

theorem encodes_two {c : Char} (hlow : 0x80 ≤ c.toNat) (hhigh : c.toNat < 0x800) :
    Encodes c (UInt8.ofNat (c.toNat / 0x40 % 0x20 + 0xC0)) [trailing c.toNat] 0x80 0xBF where
  announced := continuation?_of_two _ (Nat.mod_lt _ (by decide)) (by omega)
  continued := continuationRun_trailing_any 0 c.toNat
  number := by
    simp only [codePoint, List.length_cons, List.length_nil, List.foldl_cons, List.foldl_nil,
      toNat_trailing, UInt8.toNat_ofNat']
    omega

theorem encodes_three {c : Char} (hlow : 0x800 ≤ c.toNat) (hhigh : c.toNat < 0x10000) :
    Encodes c (UInt8.ofNat (c.toNat / 0x1000 % 0x10 + 0xE0))
      [trailing (c.toNat / 0x40), trailing c.toNat]
      (if c.toNat / 0x1000 % 0x10 = 0 then 0xA0 else 0x80)
      (if c.toNat / 0x1000 % 0x10 = 0xD then 0x9F else 0xBF) where
  announced := continuation?_of_three _ (Nat.mod_lt _ (by decide))
  continued bs := by
    -- The bounds of the first trailing byte exclude surrogates, which no character is.
    have hvalid : c.toNat < 0xD800 ∨ 0xDFFF < c.toNat ∧ c.toNat < 0x110000 := c.valid
    refine (continuationRun_trailing 1 _ _ ?_ ?_).trans
      (congrArg _ (continuationRun_trailing_any 0 c.toNat bs))
    · split
      · show 0xA0 ≤ _
        omega
      · exact Nat.le_add_left _ _
    · split
      · show _ ≤ 0x9F
        omega
      · show _ ≤ 0xBF
        omega
  number := by
    simp only [codePoint, List.length_cons, List.length_nil, List.foldl_cons, List.foldl_nil,
      toNat_trailing, UInt8.toNat_ofNat']
    omega

theorem encodes_four {c : Char} (hlow : 0x10000 ≤ c.toNat) :
    Encodes c (UInt8.ofNat (c.toNat / 0x40000 % 8 + 0xF0))
      [trailing (c.toNat / 0x1000), trailing (c.toNat / 0x40), trailing c.toNat]
      (if c.toNat / 0x40000 % 8 = 0 then 0x90 else 0x80)
      (if c.toNat / 0x40000 % 8 = 4 then 0x8F else 0xBF) := by
  have hvalid : c.toNat < 0xD800 ∨ 0xDFFF < c.toNat ∧ c.toNat < 0x110000 := c.valid
  refine ⟨continuation?_of_four _ (by omega), fun bs => ?_, ?_⟩
  · refine (continuationRun_trailing 2 _ _ ?_ ?_).trans
      (congrArg _ ((continuationRun_trailing_any 1 _ _).trans
        (congrArg _ (continuationRun_trailing_any 0 c.toNat bs))))
    · split
      · show 0x90 ≤ _
        omega
      · exact Nat.le_add_left _ _
    · split
      · show _ ≤ 0x8F
        omega
      · show _ ≤ 0xBF
        omega
  · simp only [codePoint, List.length_cons, List.length_nil, List.foldl_cons, List.foldl_nil,
      toNat_trailing, UInt8.toNat_ofNat']
    omega

theorem exists_encodes (c : Char) :
    ∃ b run low high, String.utf8EncodeChar c = b :: run ∧ Encodes c b run low high := by
  have hval : c.val.toNat = c.toNat := rfl
  unfold String.utf8EncodeChar
  simp only [hval]
  split
  case isTrue h => exact ⟨_, _, _, _, rfl, encodes_one (by omega)⟩
  case isFalse =>
    split
    case isTrue h => exact ⟨_, _, _, _, rfl, encodes_two (by omega) (by omega)⟩
    case isFalse =>
      split
      case isTrue h => exact ⟨_, _, _, _, rfl, encodes_three (by omega) (by omega)⟩
      case isFalse h => exact ⟨_, _, _, _, rfl, encodes_four (by omega)⟩

/-! ## Whole texts -/

theorem decodeFrom_flatMap (cs : List Char) (fuel position : Nat)
    (hfuel : (cs.flatMap String.utf8EncodeChar).length ≤ fuel) :
    decodeFrom fuel position (cs.flatMap String.utf8EncodeChar) = .ok cs := by
  induction cs generalizing fuel position with
  | nil =>
    rw [List.flatMap_nil]
    cases fuel <;> rfl
  | cons c cs ih =>
    obtain ⟨b, run, low, high, hbytes, hc⟩ := exists_encodes c
    rw [List.flatMap_cons, hbytes, List.cons_append] at hfuel ⊢
    rw [List.length_cons, List.length_append] at hfuel
    obtain ⟨fuel, rfl⟩ := Nat.exists_eq_add_one_of_ne_zero (Nat.ne_zero_of_lt hfuel)
    rw [decodeFrom, hc.announced]
    simp only [hc.continued, if_pos, List.drop_left]
    rw [ih fuel _ (by omega), hc.number, Char.ofNat_toNat]

/-- The bytes of a text are decoded to the text. -/
theorem decodeUtf8_utf8 (text : String) : decodeUtf8 (utf8 text) = .ok text := by
  rw [utf8_eq_flatMap, decodeUtf8, decodeFrom_flatMap _ _ _ (Nat.le_refl _)]
  exact congrArg Except.ok String.ofList_toList

end ChipEight.Text
