import FilteredFeed.Text.Decimal
import Mathlib

namespace FilteredFeed.Text.Decimal

theorem ofNat_digits (n : Nat) : ofNat n ≠ [] ∧ (ofNat n).all Char.isDigit = true := by
  refine ⟨Nat.toDigits_ne_nil, List.all_eq_true.mpr fun c hc => ?_⟩
  exact Nat.isDigit_of_mem_toDigits (by decide) (by decide) hc

theorem toNat_ofNat (n : Nat) : toNat (ofNat n) = n := Nat.ofDigitChars_ten_toDigits

theorem ofNat_eq_cons (n : Nat) : ∃ c digits, ofNat n = c :: digits ∧ c.isDigit = true ∧
    digits.all Char.isDigit = true := by
  obtain ⟨hne, hdigits⟩ := ofNat_digits n
  obtain ⟨c, digits, htext⟩ := List.exists_cons_of_ne_nil hne
  rw [htext, List.all_cons, Bool.and_eq_true] at hdigits
  exact ⟨c, digits, htext, hdigits⟩

-- Digits begin with a digit, so that they are read with no sign.
theorem toInt?_digits {d : Char} {digits : List Char} (hd : d.isDigit = true)
    (hdigits : digits.all Char.isDigit = true) :
    toInt? (d :: digits) = some (toNat (d :: digits) : Int) := by
  have hall : (d :: digits).all Char.isDigit = true := by rw [List.all_cons, hd, hdigits]; rfl
  unfold toInt?
  split
  · rename_i h; cases h; exact absurd hd (by decide)
  · rename_i h; cases h; exact absurd hd (by decide)
  · rw [if_pos ⟨List.cons_ne_nil _ _, hall⟩]

theorem toInt?_ofNat (n : Nat) : toInt? (ofNat n) = some (n : Int) := by
  have hn := toNat_ofNat n
  obtain ⟨d, digits, htext, hd, hdigits⟩ := ofNat_eq_cons n
  rw [htext] at hn ⊢
  rw [toInt?_digits hd hdigits, hn]

theorem toInt?_ofInt (n : Int) : toInt? (ofInt n) = some n := by
  unfold ofInt
  split
  · rename_i hneg
    simp only [toInt?, if_pos (ofNat_digits n.natAbs), toNat_ofNat]
    congr 1
    omega
  · rename_i hpos
    rw [toInt?_ofNat]
    congr 1
    omega

theorem toInt64?_ofInt64 (n : Int64) : toInt64? (ofInt64 n) = some n := by
  have hfits : fitsInt64 n.toInt = true := by
    rw [fitsInt64, decide_eq_true_eq]
    exact ⟨n.minValue_le_toInt, n.toInt_le⟩
  simp only [toInt64?, ofInt64, toInt?_ofInt, hfits, if_true, Int64.ofInt_toInt]

theorem fitsInt64_iff {n : Int} : fitsInt64 n = true ↔ -2 ^ 63 ≤ n ∧ n < 2 ^ 63 := by
  rw [fitsInt64, decide_eq_true_eq, Int64.toInt_minValue, Int64.toInt_maxValue]
  omega

theorem toInt?_of_toInt64? {text : List Char} {n : Int64} (h : toInt64? text = some n) :
    toInt? text = some n.toInt := by
  unfold toInt64? at h
  split at h
  · rename_i value hvalue
    split at h
    · rename_i hfits
      obtain ⟨hlo, hhi⟩ := fitsInt64_iff.mp hfits
      rw [hvalue, ← Option.some.inj h, Int64.toInt_ofInt_of_le hlo hhi]
    · cases h
  · cases h

theorem out_of_range_of_toInt64? {text : List Char} {n : Int} (hn : toInt? text = some n)
    (h : toInt64? text = none) : n < -2 ^ 63 ∨ 2 ^ 63 ≤ n := by
  have hfits : ¬fitsInt64 n = true := by
    intro hfits
    simp only [toInt64?, hn, if_pos hfits] at h
    cases h
  rw [fitsInt64_iff] at hfits
  omega

-- A decimal is a minus sign or a digit, and then digits.
theorem ofInt64_eq (n : Int64) :
    ∃ c digits, ofInt64 n = c :: digits ∧ (c = '-' ∨ c.isDigit = true) ∧
      digits.all Char.isDigit = true := by
  unfold ofInt64 ofInt
  split
  · exact ⟨'-', _, rfl, .inl rfl, (ofNat_digits n.toInt.natAbs).2⟩
  · obtain ⟨c, digits, htext, hc, hdigits⟩ := ofNat_eq_cons n.toInt.natAbs
    exact ⟨c, digits, htext, .inr hc, hdigits⟩

end FilteredFeed.Text.Decimal
