import FilteredFeed.Filter.Token
import FilteredFeed.Proofs.Clause.Scan

namespace FilteredFeed.Filter.Token

open FilteredFeed.Clause.Token (Ends IsName nameChar numeral_not_blank toOption_bind)
open FilteredFeed.Grammar FilteredFeed.Text

-- The tokens of a text without their positions, if it can be scanned.
def tokens? (text : List Char) : Option (List Token) :=
  (scanFrom 0 text).toOption.map (List.map PositionedToken.token)

theorem toOption_lexeme (p q : Nat) (c : Char) (rest : List Char) :
    (lexeme p c rest).toOption = (lexeme q c rest).toOption := by
  unfold lexeme
  repeat' split
  all_goals rfl

-- A token before what is scanned further on, without the positions.
theorem tokens_scanFrom_cons {p : Nat} {c : Char} {rest : List Char} (hc : ¬isBlank c = true) :
    (scanFrom p (c :: rest)).toOption.map (List.map PositionedToken.token) =
      (lexeme p c rest).toOption.bind fun found =>
        ((scanFrom (p + c.utf8Size + byteLength (rest.take found.2)) (rest.drop found.2)).toOption.map
          (List.map PositionedToken.token)).map (found.1 :: ·) := by
  rw [scanFrom_cons, if_neg hc, toOption_bind, Option.map_bind]
  congr 1
  funext found
  obtain ⟨token, count⟩ := found
  dsimp only [Function.comp_apply]
  rw [toOption_bind]
  cases scanFrom (p + c.utf8Size + byteLength (rest.take count)) (rest.drop count) <;> rfl

theorem tokens_scanFrom (p q : Nat) (text : List Char) :
    (scanFrom p text).toOption.map (List.map PositionedToken.token) =
      (scanFrom q text).toOption.map (List.map PositionedToken.token) := by
  fun_induction scanFrom p text generalizing q with
  | case1 => simp [scanFrom_nil]
  | case2 p c rest hblank ih =>
      rw [scanFrom_cons, if_pos hblank]
      exact ih _
  | case3 p c rest hblank ih =>
      have hp := @tokens_scanFrom_cons p c rest hblank
      rw [scanFrom_cons, if_neg hblank] at hp
      rw [hp, tokens_scanFrom_cons hblank, toOption_lexeme p q]
      congr 1
      funext found
      rw [ih]

@[simp] theorem tokens?_nil : tokens? [] = some [] := by simp [tokens?, scanFrom_nil, Except.toOption]

theorem tokens?_cons {c : Char} {rest : List Char} {token : Token} {count : Nat}
    (hc : ¬isBlank c = true) (h : lexeme 0 c rest = .ok (token, count)) :
    tokens? (c :: rest) = (tokens? (rest.drop count)).map (token :: ·) := by
  rw [tokens?, tokens_scanFrom_cons hc, h]
  simp only [Except.toOption, Option.bind_some, tokens?]
  congr 1
  exact tokens_scanFrom _ _ _

section Scan

variable {rest : List Char}

@[simp] theorem tokens?_space : tokens? (' ' :: rest) = tokens? rest := by
  rw [tokens?, scanFrom_cons, if_pos (by decide)]
  exact tokens_scanFrom _ _ _

@[simp] theorem tokens?_openParen : tokens? ('(' :: rest) = (tokens? rest).map (.openParen :: ·) :=
  tokens?_cons (c := '(') (by decide) rfl

@[simp] theorem tokens?_closeParen : tokens? (')' :: rest) = (tokens? rest).map (.closeParen :: ·) :=
  tokens?_cons (c := ')') (by decide) rfl

theorem tokens?_and : tokens? ('&' :: '&' :: rest) = (tokens? rest).map (.and :: ·) :=
  tokens?_cons (c := '&') (by decide) rfl

theorem tokens?_or : tokens? ('|' :: '|' :: rest) = (tokens? rest).map (.or :: ·) :=
  tokens?_cons (c := '|') (by decide) rfl

-- A negation, unless it is the first half of an inequality.
theorem tokens?_not (h : rest.head? ≠ some '=') : tokens? ('!' :: rest) = (tokens? rest).map (.not :: ·) := by
  have hlex : lexeme 0 '!' rest = .ok (.not, 0) := by
    simp only [lexeme, followedBy, if_neg h]
  exact tokens?_cons (by decide) hlex

theorem not_sign {c : Char} {p : Char → Bool} (hc : p c = true)
    (hp : "&|!=<>()-\"'".toList.any p = false) : c ∉ "&|!=<>()-\"'".toList := by
  intro h
  rw [List.any_eq_true.mpr ⟨c, h, hc⟩] at hp
  cases hp

-- What begins with neither a sign nor a quote is a number or a word.
theorem lexeme_eq {p : Nat} {c : Char} (hsign : c ∉ "&|!=<>()-\"'".toList) :
    lexeme p c rest =
      if c.isDigit then do
        let digits := rest.takeWhile isDigitPart
        return (← ofDigits [] (c :: digits), digits.length)
      else if isWordStart c then
        let word := rest.takeWhile isWordPart
        .ok (ofWord (c :: word), word.length)
      else .error (.unexpectedCharacter c p) := by
  have hquote : ¬(c = '"' ∨ c = '\'') := by
    rintro (rfl | rfl) <;> exact hsign (by decide)
  unfold lexeme
  split
  all_goals first | rw [if_neg hquote] | exact absurd (by decide) hsign

theorem tokens?_word {word : List Char} (hw : IsName word = true) (hr : Ends rest) :
    tokens? (word ++ rest) = (tokens? rest).map (ofWord word :: ·) := by
  cases word with
  | nil => exact absurd hw (by decide)
  | cons c word =>
      obtain ⟨hc, hword⟩ : (c.isAlpha || c == '_') = true ∧
          (word.all fun c => c.isAlpha || c == '_') = true := by
        rw [← Bool.and_eq_true_iff]
        simpa [IsName] using hw
      obtain ⟨hstart, -, hblank, hdigit⟩ := nameChar hc
      have hpart : word.all isWordPart = true :=
        List.all_eq_true.mpr fun d hd => (nameChar (List.all_eq_true.mp hword d hd)).2.1
      have hsign : c ∉ "&|!=<>()-\"'".toList :=
        not_sign (p := fun c => c.isAlpha || c == '_') hc (by decide)
      have hlex : lexeme 0 c (word ++ rest) = .ok (ofWord (c :: word), word.length) := by
        rw [lexeme_eq hsign, if_neg fun h => hdigit (.inr h), if_pos hstart,
          hr.takeWhile_append (by decide) (by decide) hpart]
      rw [List.cons_append, tokens?_cons hblank hlex, List.drop_left]

-- Digits are read as the number they are the decimal of, with the sign before them.
theorem ofDigits_eq {sign digits : List Char} {n : Int64} (hdigits : digits.all Char.isDigit = true)
    (h : sign ++ digits = Decimal.ofInt64 n) : ofDigits sign digits = .ok (.int n) := by
  have hfilter : digits.filter Char.isDigit = digits :=
    List.filter_eq_self.mpr (List.all_eq_true.mp hdigits)
  simp only [ofDigits, hfilter, h, Decimal.toInt64?_ofInt64]

theorem tokens?_integer (n : Int64) (hr : Ends rest) :
    tokens? (Decimal.ofInt64 n ++ rest) = (tokens? rest).map (.int n :: ·) := by
  obtain ⟨c, digits, htext, hc, hdigits⟩ := Decimal.ofInt64_eq n
  have htake : (digits ++ rest).takeWhile isDigitPart = digits :=
    hr.takeWhile_append (by decide) (by decide)
      (List.all_eq_true.mpr fun d hd => by simp [isDigitPart, List.all_eq_true.mp hdigits d hd])
  have hlex : lexeme 0 c (digits ++ rest) = .ok (.int n, digits.length) := by
    rcases hc with rfl | hc
    · have hfirst : (digits ++ rest).head?.any Char.isDigit = true := by
        cases digits with
        | nil =>
            have hread := Decimal.toInt64?_ofInt64 n
            rw [htext] at hread
            simp [Decimal.toInt64?, Decimal.toInt?] at hread
        | cons d digits => exact (Bool.and_eq_true_iff.mp (List.all_cons.symm.trans hdigits)).1
      have hread : ofDigits ['-'] digits = .ok (.int n) := ofDigits_eq hdigits htext.symm
      simp only [lexeme, hfirst, if_true, htake, hread]
      rfl
    · have hsign : c ∉ "&|!=<>()-\"'".toList := not_sign hc (by decide)
      have hread : ofDigits [] (c :: digits) = .ok (.int n) :=
        ofDigits_eq (by simp [hc, hdigits]) htext.symm
      rw [lexeme_eq hsign, if_pos hc, htake]
      simp only [hread]
      rfl
  rw [htext, List.cons_append, tokens?_cons (numeral_not_blank hc) hlex, List.drop_left]

theorem readQuoted_quote {quote : Char} : readQuoted quote (quote :: rest) = some ([], 1) := by
  unfold readQuoted
  rw [if_pos rfl]

theorem readQuoted_escaped {c : Char} (hc : c = '"' ∨ c = '\\') :
    readQuoted '"' ('\\' :: c :: rest) =
      (readQuoted '"' rest).map fun (text, count) => (c :: text, count + 2) := by
  conv_lhs => unfold readQuoted
  simp [hc]

theorem readQuoted_plain {c : Char} (hc : ¬(c = '"' ∨ c = '\\')) :
    readQuoted '"' (c :: rest) =
      (readQuoted '"' rest).map fun (text, count) => (c :: text, count + 1) := by
  obtain ⟨hquote, hescape⟩ := not_or.mp hc
  conv_lhs => unfold readQuoted
  rw [if_neg hquote, if_neg hescape]

-- What stands between the quotes is read back.
theorem readQuoted_escape (text : List Char) :
    readQuoted '"' (Value.escape text ++ '"' :: rest) = some (text, (Value.escape text).length + 1) := by
  induction text with
  | nil => exact readQuoted_quote
  | cons c text ih =>
      by_cases hc : c = '"' ∨ c = '\\'
      · have hescape : Value.escape (c :: text) = '\\' :: c :: Value.escape text := by
          simp [Value.escape, hc]
        rw [hescape, List.cons_append, List.cons_append, readQuoted_escaped hc, ih]
        rfl
      · have hescape : Value.escape (c :: text) = c :: Value.escape text := by
          simp [Value.escape, hc]
        rw [hescape, List.cons_append, readQuoted_plain hc, ih]
        rfl

theorem tokens?_text (s : String) :
    tokens? ('"' :: (Value.escape s.toList ++ '"' :: rest)) = (tokens? rest).map (.str s :: ·) := by
  have hlex : lexeme 0 '"' (Value.escape s.toList ++ '"' :: rest) =
      .ok (.str s, (Value.escape s.toList).length + 1) := by
    simp only [lexeme, readQuoted_escape, String.ofList_toList]
    rfl
  have hdrop : (Value.escape s.toList ++ '"' :: rest).drop ((Value.escape s.toList).length + 1) = rest := by
    rw [← List.drop_drop, List.drop_left]
    rfl
  rw [tokens?_cons (by decide) hlex, hdrop]

end Scan

end FilteredFeed.Filter.Token
