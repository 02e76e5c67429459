import FilteredFeed.Clause.Token
import FilteredFeed.Filter.Compiled
import FilteredFeed.Proofs.Text.Decimal
import Mathlib

namespace FilteredFeed.Clause.Token

open FilteredFeed.Filter FilteredFeed.Grammar FilteredFeed.Text

-- What a text is scanned to. Only failures know of positions, so none is kept.
def scan? (text : List Char) : Option (List Token) := (scanFrom 0 text).toOption

theorem toOption_lexeme (p q : Nat) (c : Char) (rest : List Char) :
    (lexeme p c rest).toOption = (lexeme q c rest).toOption := by
  unfold lexeme
  repeat' split
  all_goals rfl

theorem toOption_bind {ε α β : Type} (x : Except ε α) (f : α → Except ε β) :
    (x >>= f).toOption = x.toOption.bind fun a => (f a).toOption := by
  cases x <;> rfl

theorem toOption_scanFrom_cons {p : Nat} {c : Char} {rest : List Char} (hc : ¬isBlank c = true) :
    (scanFrom p (c :: rest)).toOption = (lexeme p c rest).toOption.bind fun found =>
      (scanFrom (p + c.utf8Size + byteLength (rest.take found.2)) (rest.drop found.2)).toOption.map
        (found.1 :: ·) := by
  rw [scanFrom_cons, if_neg hc, toOption_bind]
  congr 1
  funext found
  obtain ⟨token, count⟩ := found
  dsimp only
  rw [toOption_bind]
  cases scanFrom (p + c.utf8Size + byteLength (rest.take count)) (rest.drop count) <;> rfl

theorem toOption_scanFrom (p q : Nat) (text : List Char) :
    (scanFrom p text).toOption = (scanFrom q text).toOption := by
  fun_induction scanFrom p text generalizing q with
  | case1 => simp [scanFrom_nil]
  | case2 p c rest hblank ih =>
      rw [scanFrom_cons, if_pos hblank]
      exact ih _
  | case3 p c rest hblank ih =>
      have hp := @toOption_scanFrom_cons p c rest hblank
      rw [scanFrom_cons, if_neg hblank] at hp
      rw [hp, toOption_scanFrom_cons hblank, toOption_lexeme p q]
      congr 1
      funext found
      rw [ih]

-- The scanner takes one token after the other, and passes over blanks.
theorem scan?_blank {c : Char} {rest : List Char} (hc : isBlank c = true) :
    scan? (c :: rest) = scan? rest := by
  rw [scan?, scanFrom_cons, if_pos hc]
  exact toOption_scanFrom _ _ _

theorem scan?_cons {c : Char} {rest : List Char} {token : Token} {count : Nat}
    (hc : ¬isBlank c = true) (h : lexeme 0 c rest = .ok (token, count)) :
    scan? (c :: rest) = (scan? (rest.drop count)).map (token :: ·) := by
  rw [scan?, toOption_scanFrom_cons hc, h]
  simp only [Except.toOption, Option.bind_some, scan?]
  congr 1
  exact toOption_scanFrom _ _ _

-- What follows a word, a number or a string in a clause that is written.
def Ends (rest : List Char) : Prop := ∀ c ∈ rest.head?, c = ' ' ∨ c = ')'

section Ends

variable {rest : List Char}

@[simp] theorem ends_nil : Ends [] := by simp [Ends]

@[simp] theorem ends_space : Ends (' ' :: rest) := by simp [Ends]

@[simp] theorem ends_closeParen : Ends (')' :: rest) := by simp [Ends]

theorem Ends.takeWhile_append {p : Char → Bool} {front : List Char} (h : Ends rest)
    (hspace : p ' ' = false) (hparen : p ')' = false) (hfront : front.all p = true) :
    (front ++ rest).takeWhile p = front := by
  rw [List.takeWhile_append_of_pos (List.all_eq_true.mp hfront)]
  cases rest with
  | nil => simp
  | cons c rest =>
      rcases h c rfl with rfl | rfl
      · simp [hspace]
      · simp [hparen]

end Ends

@[simp] theorem scan?_nil : scan? [] = some [] := by simp [scan?, scanFrom_nil, Except.toOption]

section Scan

variable {rest : List Char}

@[simp] theorem scan?_space : scan? (' ' :: rest) = scan? rest := scan?_blank (by decide)

@[simp] theorem scan?_openParen : scan? ('(' :: rest) = (scan? rest).map (.openParen :: ·) :=
  scan?_cons (c := '(') (by decide) rfl

@[simp] theorem scan?_closeParen : scan? (')' :: rest) = (scan? rest).map (.closeParen :: ·) :=
  scan?_cons (c := ')') (by decide) rfl

theorem scan?_relation (rel : Relation) :
    scan? (ClauseText.relation rel ++ ' ' :: rest) = (scan? rest).map (.op rel :: ·) := by
  cases rel <;> exact (scan?_cons (by decide) rfl).trans (by simp)

-- A name is made of ASCII letters and underscores, as keywords and columns are.
def IsName (word : List Char) : Bool := !word.isEmpty && word.all fun c => c.isAlpha || c == '_'

theorem nameChar {c : Char} (h : (c.isAlpha || c == '_') = true) :
    isWordStart c = true ∧ isWordPart c = true ∧ ¬isBlank c = true ∧ ¬(c = '-' ∨ c.isDigit = true) := by
  rcases Bool.or_eq_true_iff.mp h with h | h
  · have hA : 'A'.val.toNat = 65 := rfl
    have hZ : 'Z'.val.toNat = 90 := rfl
    have ha : 'a'.val.toNat = 97 := rfl
    have hz : 'z'.val.toNat = 122 := rfl
    have hcode : 65 ≤ c.val.toNat ∧ c.val.toNat < 0x80 := by
      simp only [Char.isAlpha, Char.isUpper, Char.isLower, Bool.or_eq_true, Bool.and_eq_true,
        decide_eq_true_eq, ge_iff_le, UInt32.le_iff_toNat_le] at h
      omega
    have hletter : isLetter c = true := by
      rw [isLetter, if_pos (show c.toNat < 0x80 from hcode.2)]; exact h
    refine ⟨by simp [isWordStart, hletter], by simp [isWordPart, hletter], ?_, ?_⟩
    · have : c.toNat = c.val.toNat := rfl
      simp only [isBlank, Bool.or_eq_true, decide_eq_true_eq, beq_iff_eq]
      omega
    · rintro (rfl | hd)
      · exact absurd h (by decide)
      · have h0 : '9'.val.toNat = 57 := rfl
        simp only [Char.isDigit, Bool.and_eq_true, decide_eq_true_eq, ge_iff_le,
          UInt32.le_iff_toNat_le] at hd
        omega
  · obtain rfl : c = '_' := by simpa using h
    decide

theorem scan?_word {word : List Char} (hw : IsName word = true) (hr : Ends rest) :
    scan? (word ++ rest) = (scan? rest).map (.word (.ofList word) :: ·) := by
  cases word with
  | nil => exact absurd hw (by decide)
  | cons c word =>
      obtain ⟨hc, hword⟩ : (c.isAlpha || c == '_') = true ∧
          (word.all fun c => c.isAlpha || c == '_') = true := by
        rw [← Bool.and_eq_true_iff]
        simpa [IsName] using hw
      obtain ⟨hstart, -, hblank, hdigit⟩ := nameChar hc
      have hpart : word.all isWordPart = true :=
        List.all_eq_true.mpr fun d hd => (nameChar (List.all_eq_true.mp hword d hd)).2.1
      have hlex : lexeme 0 c (word ++ rest) = .ok (.word (.ofList (c :: word)), word.length) := by
        unfold lexeme
        split
        · exact absurd hc (by decide)
        · exact absurd hc (by decide)
        · exact absurd hc (by decide)
        · exact absurd hc (by decide)
        · exact absurd hc (by decide)
        · exact absurd hc (by decide)
        · rw [if_neg hdigit, if_pos hstart, hr.takeWhile_append (by decide) (by decide) hpart]
      rw [List.cons_append, scan?_cons hblank hlex, List.drop_left]

-- What a decimal begins with.
theorem numeral_code {c : Char} (h : c = '-' ∨ c.isDigit = true) :
    45 ≤ c.toNat ∧ c.toNat ≤ 57 ∧ c.toNat ≠ 46 ∧ c.toNat ≠ 47 := by
  rcases h with rfl | hc
  · decide
  · have h0 : '0'.val.toNat = 48 := rfl
    have h9 : '9'.val.toNat = 57 := rfl
    simp only [Char.isDigit, Bool.and_eq_true, decide_eq_true_eq, ge_iff_le,
      UInt32.le_iff_toNat_le] at hc
    change 45 ≤ c.val.toNat ∧ c.val.toNat ≤ 57 ∧ c.val.toNat ≠ 46 ∧ c.val.toNat ≠ 47
    omega

theorem numeral_not_blank {c : Char} (h : c = '-' ∨ c.isDigit = true) : ¬isBlank c = true := by
  have hcode := numeral_code h
  simp only [isBlank, Bool.or_eq_true, decide_eq_true_eq, beq_iff_eq]
  omega

theorem scan?_integer (n : Int64) (hr : Ends rest) :
    scan? (Decimal.ofInt64 n ++ rest) = (scan? rest).map (.integer n :: ·) := by
  have hread := Decimal.toInt64?_ofInt64 n
  obtain ⟨c, digits, htext, hc, hdigits⟩ := Decimal.ofInt64_eq n
  rw [htext] at hread ⊢
  have hcode := numeral_code hc
  have hlex : lexeme 0 c (digits ++ rest) = .ok (.integer n, digits.length) := by
    unfold lexeme
    split
    · exact absurd hcode (by decide)
    · exact absurd hcode (by decide)
    · exact absurd hcode (by decide)
    · exact absurd hcode (by decide)
    · exact absurd hcode (by decide)
    · exact absurd hcode (by decide)
    · rw [if_pos hc, hr.takeWhile_append (by decide) (by decide) hdigits]
      simp only [hread]
  rw [List.cons_append, scan?_cons (numeral_not_blank hc) hlex, List.drop_left]

-- The inside of a quoted text, where a quote is written twice.
def doubled (text : List Char) : List Char :=
  text.flatMap fun c => if c = '\'' then ['\'', '\''] else [c]

theorem readQuoted_doubled (text : List Char) (hr : Ends rest) :
    readQuoted (doubled text ++ '\'' :: rest) = some (text, (doubled text).length + 1) := by
  induction text with
  | nil =>
      change readQuoted ('\'' :: rest) = _
      unfold readQuoted
      split
      · rename_i h; cases h
      · rename_i h
        obtain ⟨-, rfl⟩ := List.cons.inj h
        exact absurd (hr _ rfl) (by decide)
      · rename_i h
        obtain ⟨rfl, rfl⟩ := List.cons.inj h
        rfl
  | cons c text ih =>
      by_cases hc : c = '\''
      · subst hc
        change readQuoted ('\'' :: '\'' :: (doubled text ++ '\'' :: rest)) = _
        rw [readQuoted, ih]
        rfl
      · have hd : doubled (c :: text) = c :: doubled text := by simp [doubled, hc]
        rw [hd, List.cons_append, readQuoted]
        · rw [if_neg hc, ih]; rfl
        · intro _ h _; exact hc h

theorem scan?_quote (text : List Char) (hr : Ends rest) :
    scan? (ClauseText.quote text ++ rest) = (scan? rest).map (.str (.ofList text) :: ·) := by
  have hlex : lexeme 0 '\'' (doubled text ++ '\'' :: rest) =
      .ok (.str (.ofList text), (doubled text).length + 1) := by
    simp only [lexeme, readQuoted_doubled text hr]
  have hquote : ClauseText.quote text ++ rest = '\'' :: (doubled text ++ '\'' :: rest) := by
    simp [ClauseText.quote, doubled]
  have hdrop : (doubled text ++ '\'' :: rest).drop ((doubled text).length + 1) = rest := by
    rw [← List.drop_drop, List.drop_left]; rfl
  rw [hquote, scan?_cons (by decide) hlex, hdrop]

end Scan

end FilteredFeed.Clause.Token
