import FilteredFeed.Proofs.Filter.Scan
import FilteredFeed.Proofs.Grammar.Chain
import FilteredFeed.Proofs.Text.Letters

namespace FilteredFeed.Filter.Token

open FilteredFeed.Clause.Token (numeral_not_blank)
open FilteredFeed.Grammar FilteredFeed.Text

-- A numeral without the underscores that group its digits.
def ungrouped (word : List Char) : List Char := word.filter (· != '_')

-- A numeral and the number that it stands for: digits, and perhaps a minus before them.
inductive Numeral : List Char → Int → Prop where
  | plain {d : Char} {digits : List Char} (hd : d.isDigit = true)
      (hdigits : digits.all isDigitPart = true) :
      Numeral (d :: digits) (Decimal.toNat (ungrouped (d :: digits)))
  | negative {d : Char} {digits : List Char} (hd : d.isDigit = true)
      (hdigits : digits.all isDigitPart = true) :
      Numeral ('-' :: d :: digits) (-(Decimal.toNat (ungrouped (d :: digits)) : Int))

-- What a numeral is read to. Only its value can be wrong.
def ofNumeral (word : List Char) : Except ReadError Token :=
  match Decimal.toInt64? (ungrouped word) with
  | some n => .ok (.int n)
  | none => .error (.integerOutOfRange (.ofList (ungrouped word)))

theorem ungrouped_digits {digits : List Char} (h : digits.all isDigitPart = true) :
    ungrouped digits = digits.filter Char.isDigit := by
  refine List.filter_congr fun d hd => ?_
  have hpart : (d.isDigit || d == '_') = true := List.all_eq_true.mp h d hd
  cases hdigit : d.isDigit with
  | true =>
      rw [bne_iff_ne]
      rintro rfl
      exact absurd hdigit (by decide)
  | false => rw [bne, Bool.or_eq_true_iff.mp hpart |>.resolve_left (by simp [hdigit])]; rfl

theorem ofDigits_minus {digits : List Char} (h : digits.all isDigitPart = true) :
    ofDigits ['-'] digits = ofNumeral ('-' :: digits) := by
  have hword : ungrouped ('-' :: digits) = ['-'] ++ digits.filter Char.isDigit := by
    rw [← ungrouped_digits h]
    rfl
  rw [ofNumeral, hword]
  rfl

theorem ofDigits_plain {digits : List Char} (h : digits.all isDigitPart = true) :
    ofDigits [] digits = ofNumeral digits := by
  rw [ofNumeral, ungrouped_digits h]
  rfl

theorem isDigitPart_of_isDigit {d : Char} (h : d.isDigit = true) : isDigitPart d = true := by
  simp [isDigitPart, h]

theorem all_digits {d : Char} {digits : List Char} (hd : d.isDigit = true)
    (hdigits : digits.all isDigitPart = true) : (d :: digits).all isDigitPart = true := by
  rw [List.all_cons, isDigitPart_of_isDigit hd, hdigits]
  rfl

theorem ungrouped_cons {d : Char} {digits : List Char} (hd : d.isDigit = true)
    (hdigits : digits.all isDigitPart = true) :
    ungrouped (d :: digits) = d :: digits.filter Char.isDigit := by
  rw [ungrouped_digits (all_digits hd hdigits), List.filter_cons_of_pos hd]

theorem Numeral.toInt?_ungrouped {word : List Char} {n : Int} (h : Numeral word n) :
    Decimal.toInt? (ungrouped word) = some n := by
  cases h with
  | @plain d digits hd hdigits =>
      rw [ungrouped_cons hd hdigits]
      exact Decimal.toInt?_digits hd (by simp)
  | @negative d digits hd hdigits =>
      have hminus : ungrouped ('-' :: d :: digits) = '-' :: ungrouped (d :: digits) := rfl
      have hall : (ungrouped (d :: digits)).all Char.isDigit = true := by
        simp [ungrouped_cons hd hdigits, hd]
      rw [hminus]
      exact if_pos ⟨by simp [ungrouped_cons hd hdigits], hall⟩

-- Whether a number begins with `c` before `rest`.
def beginsNumeral (c : Char) (rest : List Char) : Bool := c.isDigit || rest.head?.any Char.isDigit

-- What is read where a number may begin.
def scanNumeral (p : Nat) (c : Char) (rest : List Char) : Except ReadError (Token × Nat) :=
  if beginsNumeral c rest then do
    return (← ofNumeral (c :: rest.takeWhile isDigitPart), (rest.takeWhile isDigitPart).length)
  else .error (.unexpectedCharacter c p)

-- What is read after a quote.
def scanQuoted (p : Nat) (quote : Char) (rest : List Char) : Except ReadError (Token × Nat) :=
  match readQuoted quote rest with
  | some (text, count) => .ok (.str (.ofList text), count)
  | none => .error (.unterminatedString p)

-- The rules of the scanner. The character that a lexeme begins with settles which one applies.
inductive Rule (c : Char) : Prop where
  | pair (second : Char) (one two : Token) (hsecond : isBlank second = false)
      (hone : ∀ n, one ≠ .int n) (htwo : ∀ n, two ≠ .int n)
      (h : ∀ p rest, lexeme p c rest = .ok (followedBy second rest one two))
  | bracket (token : Token) (htoken : ∀ n, token ≠ .int n)
      (h : ∀ p rest, lexeme p c rest = .ok (token, 0))
  | quoted (hc : c = '"' ∨ c = '\'') (h : ∀ p rest, lexeme p c rest = scanQuoted p c rest)
  | numeral (hc : c = '-' ∨ c.isDigit = true)
      (h : ∀ p rest, lexeme p c rest = scanNumeral p c rest)
  | word (h : ∀ p rest, lexeme p c rest =
      .ok (ofWord (c :: rest.takeWhile isWordPart), (rest.takeWhile isWordPart).length))
  | unknown (h : ∀ p rest, lexeme p c rest = .error (.unexpectedCharacter c p))

theorem rule_of_sign {c : Char} (h : c ∈ "&|!=<>()-\"'".toList) : Rule c := by
  have hsigns : "&|!=<>()-\"'".toList =
      ['&', '|', '!', '=', '<', '>', '(', ')', '-', '"', '\''] := rfl
  simp only [hsigns, List.mem_cons, List.not_mem_nil, or_false] at h
  rcases h with rfl | rfl | rfl | rfl | rfl | rfl | rfl | rfl | rfl | rfl | rfl
  · exact .pair '&' .and .and (by decide) nofun nofun fun _ _ => rfl
  · exact .pair '|' .or .or (by decide) nofun nofun fun _ _ => rfl
  · exact .pair '=' .not (.compare (.relation .ne)) (by decide) nofun nofun fun _ _ => rfl
  · exact .pair '=' (.compare (.relation .eq)) (.compare (.relation .eq)) (by decide) nofun nofun
      fun _ _ => rfl
  · exact .pair '=' (.compare (.relation .lt)) (.compare (.relation .le)) (by decide) nofun nofun
      fun _ _ => rfl
  · exact .pair '=' (.compare (.relation .gt)) (.compare (.relation .ge)) (by decide) nofun nofun
      fun _ _ => rfl
  · exact .bracket .openParen nofun fun _ _ => rfl
  · exact .bracket .closeParen nofun fun _ _ => rfl
  · refine .numeral (.inl rfl) fun p rest => ?_
    rw [scanNumeral, ← ofDigits_minus List.all_takeWhile]
    rfl
  · exact .quoted (.inl rfl) fun _ _ => rfl
  · exact .quoted (.inr rfl) fun _ _ => rfl

theorem rule (c : Char) : Rule c := by
  by_cases hsign : c ∈ "&|!=<>()-\"'".toList
  · exact rule_of_sign hsign
  · by_cases hdigit : c.isDigit = true
    · refine .numeral (.inr hdigit) fun p rest => ?_
      rw [lexeme_eq hsign, if_pos hdigit, scanNumeral, beginsNumeral, hdigit, Bool.true_or, if_pos rfl,
        ← ofDigits_plain (all_digits hdigit List.all_takeWhile)]
    · by_cases hstart : isWordStart c = true
      · refine .word fun p rest => ?_
        rw [lexeme_eq hsign, if_neg hdigit, if_pos hstart]
      · refine .unknown fun p rest => ?_
        rw [lexeme_eq hsign, if_neg hdigit, if_neg hstart]

-- What has been read as a lexeme: it is read the same when it stands alone, it does not end with
-- white space, and no lexeme that begins at the same place is longer.
structure Reach (c : Char) (rest : List Char) (token : Token) (count : Nat) : Prop where
  fits : count ≤ rest.length
  alone : lexeme 0 c (rest.take count) = .ok (token, count)
  last : ∀ d ∈ (rest.take count).getLast?, isBlank d = false
  longest : ∀ front other, front <+: rest → lexeme 0 c front = .ok (other, front.length) →
    front.length ≤ count

section TakeWhile

variable {q : Char → Bool} {rest : List Char}

theorem take_takeWhile : rest.take (rest.takeWhile q).length = rest.takeWhile q :=
  (List.prefix_iff_eq_take.mp (List.takeWhile_prefix q)).symm

theorem takeWhile_again : (rest.takeWhile q).takeWhile q = rest.takeWhile q :=
  List.takeWhile_eq_self_iff.mpr (List.all_eq_true.mp List.all_takeWhile)

theorem last_takeWhile (hq : ∀ d, q d = true → isBlank d = false) :
    ∀ d ∈ (rest.take (rest.takeWhile q).length).getLast?, isBlank d = false := by
  intro d hd
  rw [take_takeWhile] at hd
  exact hq d (List.all_eq_true.mp List.all_takeWhile d (List.mem_of_getLast? hd))

theorem le_takeWhile {front : List Char} (hfront : front <+: rest)
    (h : (front.takeWhile q).length = front.length) : front.length ≤ (rest.takeWhile q).length := by
  obtain ⟨more, rfl⟩ := hfront
  rw [List.takeWhile_append, if_pos h, List.length_append]
  omega

end TakeWhile

-- What is between quotes ends at the first quote that is not escaped, whatever follows it.
theorem readQuoted_eq_some {quote : Char} {rest text : List Char} {count : Nat}
    (h : readQuoted quote rest = some (text, count)) :
    ∃ inside after, rest = inside ++ quote :: after ∧ count = inside.length + 1 ∧
      ∀ more, readQuoted quote (inside ++ quote :: more) = some (text, count) := by
  fun_induction readQuoted quote rest generalizing text count with
  | case1 => cases h
  | case2 rest =>
      obtain ⟨rfl, rfl⟩ := Prod.mk.inj (Option.some.inj h)
      exact ⟨[], rest, rfl, rfl, fun more => readQuoted_quote⟩
  | case3 => cases h
  | case4 d rest hquote ih =>
      obtain ⟨⟨inner, n⟩, hread, hfound⟩ := Option.map_eq_some_iff.mp h
      obtain ⟨inside, after, rfl, rfl, hmore⟩ := ih hread
      obtain ⟨rfl, rfl⟩ := Prod.mk.inj hfound
      refine ⟨'\\' :: d :: inside, after, rfl, rfl, fun more => ?_⟩
      simp only [List.cons_append, readQuoted, if_neg hquote, if_true, hmore, Option.map_some]
  | case5 d rest hquote hescape ih =>
      obtain ⟨⟨inner, n⟩, hread, hfound⟩ := Option.map_eq_some_iff.mp h
      obtain ⟨inside, after, rfl, rfl, hmore⟩ := ih hread
      obtain ⟨rfl, rfl⟩ := Prod.mk.inj hfound
      refine ⟨d :: inside, after, rfl, rfl, fun more => ?_⟩
      rw [List.cons_append]
      conv_lhs => unfold readQuoted
      rw [if_neg hquote, if_neg hescape, hmore]
      rfl

theorem readQuoted_append {quote : Char} {front text : List Char} {count : Nat}
    (h : readQuoted quote front = some (text, count)) (more : List Char) :
    readQuoted quote (front ++ more) = some (text, count) := by
  obtain ⟨inside, after, rfl, -, hmore⟩ := readQuoted_eq_some h
  rw [List.append_assoc, List.cons_append]
  exact hmore (after ++ more)

theorem followedBy_whole {second : Char} {one two token : Token} {front : List Char}
    (h : followedBy second front one two = (token, front.length)) : front = [] ∨ front = [second] := by
  by_cases hhead : front.head? = some second
  · obtain ⟨more, rfl⟩ : ∃ more, front = second :: more := List.head?_eq_some_iff.mp hhead
    have hcount := congrArg Prod.snd ((if_pos hhead).symm.trans h)
    have hmore : more = [] := List.eq_nil_of_length_eq_zero (Nat.succ.inj hcount).symm
    exact .inr (hmore ▸ rfl)
  · have hcount := congrArg Prod.snd ((if_neg hhead).symm.trans h)
    exact .inl (List.eq_nil_of_length_eq_zero hcount.symm)

theorem reach_pair {c second : Char} {one two token : Token} {rest : List Char} {count : Nat}
    (hsecond : isBlank second = false)
    (hrule : ∀ p rest, lexeme p c rest = .ok (followedBy second rest one two))
    (h : followedBy second rest one two = (token, count)) : Reach c rest token count := by
  by_cases hhead : rest.head? = some second
  · obtain ⟨more, rfl⟩ : ∃ more, rest = second :: more := List.head?_eq_some_iff.mp hhead
    obtain ⟨rfl, rfl⟩ := Prod.mk.inj ((if_pos hhead).symm.trans h)
    refine ⟨by simp, by rw [hrule]; simp [followedBy], by simpa using hsecond, ?_⟩
    intro front other _ hwhole
    rw [hrule] at hwhole
    rcases followedBy_whole (Except.ok.inj hwhole) with rfl | rfl <;> simp
  · obtain ⟨rfl, rfl⟩ := Prod.mk.inj ((if_neg hhead).symm.trans h)
    refine ⟨Nat.zero_le _, by rw [hrule]; simp [followedBy], by simp, ?_⟩
    intro front other hfront hwhole
    rw [hrule] at hwhole
    rcases followedBy_whole (Except.ok.inj hwhole) with rfl | rfl
    · simp
    · obtain ⟨more, rfl⟩ := hfront
      exact absurd rfl hhead

theorem reach_bracket {c : Char} {token : Token} {rest : List Char}
    (hrule : ∀ p rest, lexeme p c rest = .ok (token, 0)) : Reach c rest token 0 := by
  refine ⟨Nat.zero_le _, hrule 0 _, by simp, ?_⟩
  intro front other _ hwhole
  rw [hrule] at hwhole
  exact (congrArg Prod.snd (Except.ok.inj hwhole)).ge

theorem scanQuoted_eq_ok {p : Nat} {quote : Char} {rest : List Char} {token : Token} {count : Nat}
    (h : scanQuoted p quote rest = .ok (token, count)) :
    ∃ text, readQuoted quote rest = some (text, count) ∧ token = .str (.ofList text) := by
  unfold scanQuoted at h
  split at h
  · rename_i text n hread
    obtain ⟨rfl, rfl⟩ := Prod.mk.inj (Except.ok.inj h)
    exact ⟨text, hread, rfl⟩
  · cases h

theorem reach_quoted {p : Nat} {c : Char} {rest : List Char} {token : Token} {count : Nat}
    (hc : c = '"' ∨ c = '\'') (hrule : ∀ p rest, lexeme p c rest = scanQuoted p c rest)
    (h : scanQuoted p c rest = .ok (token, count)) : Reach c rest token count := by
  obtain ⟨text, hread, rfl⟩ := scanQuoted_eq_ok h
  obtain ⟨inside, after, rfl, rfl, hmore⟩ := readQuoted_eq_some hread
  have htake : (inside ++ c :: after).take (inside.length + 1) = inside ++ [c] := by
    rw [List.append_cons, List.take_left' (by simp)]
  refine ⟨by simp, ?_, ?_, ?_⟩
  · rw [htake, hrule, scanQuoted, hmore]
  · intro d hd
    obtain rfl : c = d := by simpa [htake] using hd
    rcases hc with rfl | rfl <;> decide
  · intro front other hfront hwhole
    rw [hrule] at hwhole
    obtain ⟨inner, hinner, -⟩ := scanQuoted_eq_ok hwhole
    obtain ⟨more, hrest⟩ := hfront
    have hfound := readQuoted_append hinner more
    rw [hrest, hread] at hfound
    exact (congrArg Prod.snd (Option.some.inj hfound)).ge

theorem reach_word {c : Char} {rest : List Char}
    (hrule : ∀ p rest, lexeme p c rest =
      .ok (ofWord (c :: rest.takeWhile isWordPart), (rest.takeWhile isWordPart).length)) :
    Reach c rest (ofWord (c :: rest.takeWhile isWordPart)) (rest.takeWhile isWordPart).length := by
  refine ⟨(List.takeWhile_prefix _).length_le, ?_, last_takeWhile fun d hd => ?_, ?_⟩
  · rw [take_takeWhile, hrule, takeWhile_again]
  · cases hblank : isBlank d with
    | false => rfl
    | true => rw [isWordPart_of_isBlank hblank] at hd; cases hd
  · intro front other hfront hwhole
    rw [hrule] at hwhole
    exact le_takeWhile hfront (congrArg Prod.snd (Except.ok.inj hwhole))

-- Whether a number begins is settled by the digits that come first.
theorem beginsNumeral_take {c : Char} {rest : List Char} :
    beginsNumeral c (rest.takeWhile isDigitPart) = beginsNumeral c rest := by
  cases rest with
  | nil => rfl
  | cons d rest =>
      by_cases hd : isDigitPart d = true
      · rw [List.takeWhile_cons_of_pos hd]
        rfl
      · have hdigit : d.isDigit = false := by
          simpa using fun h => hd (isDigitPart_of_isDigit h)
        rw [List.takeWhile_cons_of_neg hd]
        simp [beginsNumeral, hdigit]

theorem beginsNumeral_mono {c : Char} {front rest : List Char} (hfront : front <+: rest)
    (h : beginsNumeral c front = true) : beginsNumeral c rest = true := by
  obtain ⟨more, rfl⟩ := hfront
  cases front with
  | nil =>
      have hc : c.isDigit = true := by simpa [beginsNumeral] using h
      simp [beginsNumeral, hc]
  | cons d front => exact h

theorem scanNumeral_eq_ok {p : Nat} {c : Char} {rest : List Char} {token : Token} {count : Nat}
    (h : scanNumeral p c rest = .ok (token, count)) :
    beginsNumeral c rest = true ∧ ofNumeral (c :: rest.takeWhile isDigitPart) = .ok token ∧
      count = (rest.takeWhile isDigitPart).length := by
  by_cases hbegins : beginsNumeral c rest = true
  · rw [scanNumeral, if_pos hbegins] at h
    obtain ⟨other, hother, hfound⟩ := bind_eq_ok h
    obtain ⟨rfl, rfl⟩ := Prod.mk.inj (Except.ok.inj hfound)
    exact ⟨hbegins, hother, rfl⟩
  · rw [scanNumeral, if_neg hbegins] at h
    cases h

theorem isBlank_of_isDigitPart {d : Char} (h : isDigitPart d = true) : isBlank d = false := by
  rcases Bool.or_eq_true_iff.mp h with hd | hd
  · exact Bool.eq_false_iff.mpr (numeral_not_blank (.inr hd))
  · obtain rfl : d = '_' := by simpa using hd
    rfl

theorem reach_numeral {p : Nat} {c : Char} {rest : List Char} {token : Token} {count : Nat}
    (hrule : ∀ p rest, lexeme p c rest = scanNumeral p c rest)
    (h : scanNumeral p c rest = .ok (token, count)) : Reach c rest token count := by
  obtain ⟨hbegins, htoken, rfl⟩ := scanNumeral_eq_ok h
  refine ⟨(List.takeWhile_prefix _).length_le, ?_, last_takeWhile fun d hd => ?_, ?_⟩
  · rw [take_takeWhile, hrule, scanNumeral, beginsNumeral_take, if_pos hbegins, takeWhile_again,
      htoken]
    rfl
  · exact isBlank_of_isDigitPart hd
  · intro front other hfront hwhole
    rw [hrule] at hwhole
    obtain ⟨-, -, hcount⟩ := scanNumeral_eq_ok hwhole
    exact le_takeWhile hfront hcount.symm

theorem lexeme_reach {p : Nat} {c : Char} {rest : List Char} {token : Token} {count : Nat}
    (h : lexeme p c rest = .ok (token, count)) : Reach c rest token count := by
  cases rule c with
  | pair second one two hsecond _ _ hrule =>
      rw [hrule] at h
      exact reach_pair hsecond hrule (Except.ok.inj h)
  | bracket other _ hrule =>
      rw [hrule] at h
      obtain ⟨rfl, rfl⟩ := Prod.mk.inj (Except.ok.inj h)
      exact reach_bracket hrule
  | quoted hc hrule =>
      rw [hrule] at h
      exact reach_quoted hc hrule h
  | numeral hc hrule =>
      rw [hrule] at h
      exact reach_numeral hrule h
  | word hrule =>
      rw [hrule] at h
      obtain ⟨rfl, rfl⟩ := Prod.mk.inj (Except.ok.inj h)
      exact reach_word hrule
  | unknown hrule =>
      rw [hrule] at h
      cases h

theorem numeral_of_begins {c : Char} {rest : List Char} (hc : c = '-' ∨ c.isDigit = true)
    (hbegins : beginsNumeral c rest = true) :
    ∃ n, Numeral (c :: rest.takeWhile isDigitPart) n := by
  by_cases hdigit : c.isDigit = true
  · exact ⟨_, .plain hdigit List.all_takeWhile⟩
  · obtain rfl := hc.resolve_right hdigit
    cases rest with
    | nil => cases hbegins
    | cons d rest =>
        have hd : d.isDigit = true := by simpa [beginsNumeral, hdigit] using hbegins
        rw [List.takeWhile_cons_of_pos (isDigitPart_of_isDigit hd)]
        exact ⟨_, .negative hd List.all_takeWhile⟩

theorem ofNumeral_eq_ok {word : List Char} {value : Int} {token : Token}
    (hword : Numeral word value) (h : ofNumeral word = .ok token) :
    ∃ n : Int64, token = .int n ∧ n.toInt = value := by
  unfold ofNumeral at h
  split at h
  · rename_i n hn
    have hvalue := Decimal.toInt?_of_toInt64? hn
    rw [hword.toInt?_ungrouped] at hvalue
    exact ⟨n, (Except.ok.inj h).symm, (Option.some.inj hvalue).symm⟩
  · cases h

theorem ofNumeral_eq_error {word : List Char} {value : Int} {cause : ReadError}
    (hword : Numeral word value) (h : ofNumeral word = .error cause) :
    cause = .integerOutOfRange (.ofList (ungrouped word)) ∧ (value < -2 ^ 63 ∨ 2 ^ 63 ≤ value) := by
  unfold ofNumeral at h
  split at h
  · cases h
  · rename_i hnone
    exact ⟨(Except.error.inj h).symm, Decimal.out_of_range_of_toInt64? hword.toInt?_ungrouped hnone⟩

theorem ofWord_ne_int (word : List Char) (n : Int64) : ofWord word ≠ .int n := by
  have hkeywords : ∀ entry ∈ keywords, entry.2 ≠ .int n := by simp [keywords]
  unfold ofWord
  split
  · rename_i keyword token hfind
    exact hkeywords _ (List.mem_of_find?_eq_some hfind)
  · nofun

-- Only numerals are read to numbers, each to the one that it stands for.
theorem numeral_of_lexeme {p : Nat} {c : Char} {rest : List Char} {n : Int64} {count : Nat}
    (h : lexeme p c rest = .ok (.int n, count)) : Numeral (c :: rest.take count) n.toInt := by
  cases rule c with
  | pair second one two _ hone htwo hrule =>
      rw [hrule, followedBy] at h
      split at h
      · exact absurd (congrArg Prod.fst (Except.ok.inj h)) (htwo n)
      · exact absurd (congrArg Prod.fst (Except.ok.inj h)) (hone n)
  | bracket token htoken hrule =>
      rw [hrule] at h
      exact absurd (congrArg Prod.fst (Except.ok.inj h)) (htoken n)
  | quoted _ hrule =>
      rw [hrule] at h
      obtain ⟨text, -, htoken⟩ := scanQuoted_eq_ok h
      cases htoken
  | numeral hc hrule =>
      rw [hrule] at h
      obtain ⟨hbegins, htoken, rfl⟩ := scanNumeral_eq_ok h
      obtain ⟨value, hvalue⟩ := numeral_of_begins hc hbegins
      obtain ⟨m, hm, rfl⟩ := ofNumeral_eq_ok hvalue htoken
      rw [take_takeWhile, Token.int.inj hm]
      exact hvalue
  | word hrule =>
      rw [hrule] at h
      exact absurd (congrArg Prod.fst (Except.ok.inj h)) (ofWord_ne_int _ n)
  | unknown hrule =>
      rw [hrule] at h
      cases h

end FilteredFeed.Filter.Token
