import FilteredFeed.Text.Letters
import Mathlib

namespace FilteredFeed.Text

open FilteredFeed.Unicode

-- The white space beyond ASCII.
def wideBlanks : List (Nat × Nat) :=
  [(0x85, 0x85), (0xA0, 0xA0), (0x1680, 0x1680), (0x2000, 0x200A), (0x2028, 0x2029),
   (0x202F, 0x202F), (0x205F, 0x205F), (0x3000, 0x3000)]

theorem exists_wideBlank {c : Char} (hc : isBlank c = true) (hwide : ¬c.toNat < 0x80) :
    ∃ blank ∈ wideBlanks, blank.1 ≤ c.toNat ∧ c.toNat ≤ blank.2 := by
  simp only [isBlank, Bool.or_eq_true, decide_eq_true_eq, beq_iff_eq] at hc
  simp [wideBlanks]
  omega

-- No range of the list meets the white space beyond ASCII.
def avoidBlanks (ranges : List (Nat × Nat)) : Bool :=
  ranges.all fun range => wideBlanks.all fun blank =>
    decide (range.2 < blank.1) || decide (blank.2 < range.1)

theorem contains_of_avoidBlanks {s : CharSet} {c : Char} (hs : avoidBlanks s.ranges = true)
    (hc : isBlank c = true) (hwide : ¬c.toNat < 0x80) : s.contains c = false := by
  obtain ⟨blank, hblank, hlo, hhi⟩ := exists_wideBlank hc hwide
  rw [← Bool.not_eq_true, CharSet.contains, CharSet.containsCode_iff]
  rintro ⟨range, hrange, h⟩
  have hapart := List.all_eq_true.mp (List.all_eq_true.mp hs range hrange) blank hblank
  simp only [Bool.or_eq_true, decide_eq_true_eq] at hapart
  omega

-- The ranges of a table as it is read from its characters.
def tableRanges (text : List Char) : List (Nat × Nat) :=
  ((text.splitBy fun a b => a.isWhitespace == b.isWhitespace).filter fun word =>
    word.head?.any fun c => !c.isWhitespace).map CharSet.rangeOf

theorem avoidBlanks_ofTable {table : String} {text : List Char} (htext : table.toList = text)
    (h : avoidBlanks (tableRanges text) = true) :
    avoidBlanks (CharSet.ofTable table).ranges = true := by
  subst htext
  exact h

theorem contains_membersOf (categories : List Category) (c : Char) :
    (Category.membersOf categories).contains c =
      categories.any fun category => category.members.contains c := by
  rw [Bool.eq_iff_iff, Category.membersOf, CharSet.unions, CharSet.contains,
    CharSet.containsCode_ofRanges, List.any_eq_true]
  simp only [List.mem_flatMap, List.mem_map, CharSet.contains]
  constructor
  · rintro ⟨range, ⟨-, ⟨category, hcategory, rfl⟩, hrange⟩, h⟩
    exact ⟨category, hcategory, (CharSet.containsCode_iff _ _).mpr ⟨range, hrange, h⟩⟩
  · rintro ⟨category, hcategory, h⟩
    obtain ⟨range, hrange, h⟩ := (CharSet.containsCode_iff _ _).mp h
    exact ⟨range, ⟨_, ⟨category, hcategory, rfl⟩, hrange⟩, h⟩

-- The categories that the characters of words belong to.
def wordCategories : List Category :=
  [.letterNumber, .uppercaseLetter, .lowercaseLetter, .titlecaseLetter, .modifierLetter,
   .otherLetter, .decimalNumber, .otherNumber]

-- The characters of a table are given to the evaluation as a list, since to take them out of the
-- text again would be most of the work.
set_option maxRecDepth 100000 in
theorem avoidBlanks_members {category : Category} (h : category ∈ wordCategories) :
    avoidBlanks category.members.ranges = true := by
  simp only [wordCategories, List.mem_cons, List.not_mem_nil, or_false] at h
  rcases h with rfl | rfl | rfl | rfl | rfl | rfl | rfl | rfl <;>
    exact avoidBlanks_ofTable String.toList_ofList (by decide +kernel)

set_option maxRecDepth 100000 in
theorem avoidBlanks_otherAlphabetic :
    avoidBlanks ListedProperty.otherAlphabetic.members.ranges = true :=
  avoidBlanks_ofTable String.toList_ofList (by decide +kernel)

-- The letters and the numerals beyond ASCII, by their tables.
theorem alphabetic_contains (c : Char) :
    alphabetic.contains c =
      ((Category.membersOf [.letterNumber, .uppercaseLetter, .lowercaseLetter, .titlecaseLetter,
        .modifierLetter, .otherLetter]).contains c ||
        ListedProperty.otherAlphabetic.members.contains c) :=
  CharSet.contains_union _ _ c

theorem membersOf_blank {categories : List Category} {c : Char} (hc : isBlank c = true)
    (hwide : ¬c.toNat < 0x80) (h : categories ⊆ wordCategories) :
    (Category.membersOf categories).contains c = false := by
  rw [contains_membersOf, List.any_eq_false]
  intro category hcategory
  simp [contains_of_avoidBlanks (avoidBlanks_members (h hcategory)) hc hwide]

-- Letters and digits come after the space in ASCII.
theorem isAlpha_of_le_space {c : Char} (hc : c.toNat ≤ 0x20) :
    c.isAlpha = false ∧ c.isDigit = false := by
  have h0 : '0'.val.toNat = 48 := rfl
  have hA : 'A'.val.toNat = 65 := rfl
  have ha : 'a'.val.toNat = 97 := rfl
  have hcode : c.val.toNat ≤ 0x20 := hc
  simp only [Char.isAlpha, Char.isUpper, Char.isLower, Char.isDigit, Bool.or_eq_false_iff,
    Bool.and_eq_false_iff, decide_eq_false_iff_not, ge_iff_le, UInt32.le_iff_toNat_le]
  omega

-- White space is not a part of words, so that a word ends before it.
theorem isWordPart_of_isBlank {c : Char} (hc : isBlank c = true) : isWordPart c = false := by
  have hne : (c == '_') = false := by
    rw [beq_eq_false_iff_ne]
    rintro rfl
    exact absurd hc (by decide)
  by_cases hwide : c.toNat < 0x80
  · have hcode : c.toNat ≤ 0x20 := by
      simp only [isBlank, Bool.or_eq_true, decide_eq_true_eq, beq_iff_eq] at hc
      omega
    obtain ⟨halpha, hdigit⟩ := isAlpha_of_le_space hcode
    rw [isWordPart, isLetter, isNumeral, if_pos hwide, if_pos hwide, halpha, hdigit, hne]
    rfl
  · have hletter : isLetter c = false := by
      rw [isLetter, if_neg hwide, alphabetic_contains, membersOf_blank hc hwide (by decide),
        contains_of_avoidBlanks avoidBlanks_otherAlphabetic hc hwide, Bool.or_false]
    have hnumeral : isNumeral c = false := by
      rw [isNumeral, if_neg hwide]
      exact membersOf_blank hc hwide (by decide)
    rw [isWordPart, hletter, hnumeral, hne]
    rfl

@[simp] theorem byteLength_nil : byteLength [] = 0 := rfl

@[simp] theorem byteLength_cons (c : Char) (text : List Char) :
    byteLength (c :: text) = c.utf8Size + byteLength text := rfl

@[simp] theorem byteLength_append (front rest : List Char) :
    byteLength (front ++ rest) = byteLength front + byteLength rest := by
  induction front with
  | nil => simp
  | cons c front ih =>
      rw [List.cons_append, byteLength_cons, byteLength_cons, ih]
      omega

theorem byteLength_pos {text : List Char} (h : text ≠ []) : 0 < byteLength text := by
  obtain ⟨c, text, rfl⟩ := List.exists_cons_of_ne_nil h
  have := c.utf8Size_pos
  rw [byteLength_cons]
  omega

theorem byteLength_eq (text : List Char) : byteLength text = (String.ofList text).utf8ByteSize := by
  induction text with
  | nil => rfl
  | cons c text ih =>
      have hcons : String.ofList (c :: text) = String.singleton c ++ String.ofList text := by
        rw [String.singleton_eq_ofList, ← String.ofList_append, List.singleton_append]
      rw [byteLength_cons, ih, hcons, String.utf8ByteSize_append, String.utf8ByteSize_singleton]

-- A character of a text begins where the text before it ends.
theorem isValid_byteLength (front rest : List Char) :
    String.Pos.Raw.IsValid (.ofList (front ++ rest)) ⟨byteLength front⟩ := by
  rw [String.Pos.Raw.isValid_ofList]
  exact ⟨front.length, by rw [List.take_left, byteLength_eq]⟩

end FilteredFeed.Text
