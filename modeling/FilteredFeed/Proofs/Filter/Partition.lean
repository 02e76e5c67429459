import FilteredFeed.Proofs.Filter.Lexemes

namespace FilteredFeed.Filter.Token

open FilteredFeed.Grammar FilteredFeed.Text

-- A lexeme of a token is scanned to that token when it stands alone. White space around it is not
-- a part of it.
structure IsLexeme (word : List Char) (token : Token) : Prop where
  nonempty : word ≠ []
  first : ∀ c ∈ word.head?, isBlank c = false
  last : ∀ c ∈ word.getLast?, isBlank c = false
  alone : scan (.ofList word) = .ok [⟨token, 0⟩]

-- How a text is split from its beginning up to `rest`: into white space and lexemes, one for each
-- of the tokens in order. A token is at the byte offset where its lexeme begins, and no longer
-- lexeme begins there.
inductive Splits : List Char → List PositionedToken → List Char → Prop where
  | nil {rest : List Char} : Splits [] [] rest
  | blank {front rest : List Char} {tokens : List PositionedToken} {c : Char}
      (h : Splits front tokens (c :: rest)) (hc : isBlank c = true) :
      Splits (front ++ [c]) tokens rest
  | lexeme {front word rest : List Char} {tokens : List PositionedToken} {token : Token}
      (h : Splits front tokens (word ++ rest)) (hword : IsLexeme word token)
      (hlongest : ∀ longer other, longer <+: word ++ rest → IsLexeme longer other →
        longer.length ≤ word.length) :
      Splits (front ++ word) (tokens ++ [⟨token, byteLength front⟩]) rest

-- Why scanning stops before a text that begins at `p`: no lexeme begins there, or it is a number
-- outside the signed 64-bit range.
inductive Stops (p : Nat) : List Char → ReadError → Prop where
  | character {c : Char} {rest : List Char} (hc : isBlank c = false)
      (h : ∀ word token, word <+: c :: rest → ¬IsLexeme word token) :
      Stops p (c :: rest) (.unexpectedCharacter c p)
  | quotation {quote : Char} {rest : List Char} (hquote : quote = '"' ∨ quote = '\'')
      (h : ∀ word token, word <+: quote :: rest → ¬IsLexeme word token) :
      Stops p (quote :: rest) (.unterminatedString p)
  | numeral {word rest : List Char} {value : Int} (hword : Numeral word value)
      (hrest : ∀ d ∈ rest.head?, isDigitPart d = false)
      (hvalue : value < -2 ^ 63 ∨ 2 ^ 63 ≤ value) :
      Stops p (word ++ rest) (.integerOutOfRange (.ofList (ungrouped word)))

theorem scanFrom_cons_ok {p : Nat} {c : Char} {rest : List Char} {tokens : List PositionedToken}
    (hc : isBlank c = false) (h : scanFrom p (c :: rest) = .ok tokens) :
    ∃ token count more, lexeme p c rest = .ok (token, count) ∧
      scanFrom (p + c.utf8Size + byteLength (rest.take count)) (rest.drop count) = .ok more ∧
      tokens = ⟨token, p⟩ :: more := by
  rw [scanFrom_cons, if_neg (by simp [hc])] at h
  obtain ⟨⟨token, count⟩, htoken, h⟩ := bind_eq_ok h
  obtain ⟨more, hmore, h⟩ := bind_eq_ok h
  exact ⟨token, count, more, htoken, hmore, (Except.ok.inj h).symm⟩

-- A text without tokens is blank.
theorem isBlank_of_scanFrom {p : Nat} {text : List Char} (h : scanFrom p text = .ok []) :
    ∀ c ∈ text, isBlank c = true := by
  induction text generalizing p with
  | nil => simp
  | cons c text ih =>
      by_cases hc : isBlank c = true
      · rw [scanFrom_cons, if_pos hc] at h
        exact List.forall_mem_cons.mpr ⟨hc, ih h⟩
      · obtain ⟨_, _, _, -, -, htokens⟩ := scanFrom_cons_ok (Bool.eq_false_iff.mpr hc) h
        cases htokens

theorem isLexeme_of_lexeme {c : Char} {rest : List Char} {token : Token} (hc : isBlank c = false)
    (h : lexeme 0 c rest = .ok (token, rest.length)) : IsLexeme (c :: rest) token := by
  have hlast := (lexeme_reach h).last
  rw [List.take_length] at hlast
  refine ⟨List.cons_ne_nil c rest, by simpa using hc, ?_, ?_⟩
  · cases rest with
    | nil => simpa using hc
    | cons d rest => simpa [List.getLast?_cons_cons] using hlast
  · rw [scan, String.toList_ofList, scanFrom_cons, if_neg (by simp [hc]), h]
    simp only [ok_bind, List.drop_length, scanFrom_nil]
    rfl

theorem IsLexeme.lexeme {word : List Char} {token : Token} (h : IsLexeme word token) :
    ∃ c rest, word = c :: rest ∧ lexeme 0 c rest = .ok (token, rest.length) := by
  obtain ⟨c, rest, rfl⟩ := List.exists_cons_of_ne_nil h.nonempty
  have halone := h.alone
  rw [scan, String.toList_ofList] at halone
  obtain ⟨other, count, more, hread, hmore, htokens⟩ := scanFrom_cons_ok (h.first c rfl) halone
  obtain ⟨⟨rfl, -⟩, rfl⟩ := by simpa using htokens
  have hblank := isBlank_of_scanFrom hmore
  have hdrop : rest.drop count = [] := by
    -- otherwise the word would end with white space
    by_contra hne
    have hend : (c :: rest).getLast? = (rest.drop count).getLast? := by
      rw [← List.getLast?_append_of_ne_nil (c :: rest.take count) hne, List.cons_append,
        List.take_append_drop]
    rw [List.getLast?_eq_some_getLast hne] at hend
    have hlast := h.last _ hend
    rw [hblank _ (List.getLast_mem hne)] at hlast
    cases hlast
  have hcount : count = rest.length :=
    le_antisymm (lexeme_reach hread).fits (List.drop_eq_nil_iff.mp hdrop)
  exact ⟨c, rest, rfl, hcount ▸ hread⟩

-- A lexeme at the beginning of a text is read there as it is when it stands alone.
theorem IsLexeme.front {word rest : List Char} {c : Char} {token : Token}
    (h : IsLexeme word token) (hword : word <+: c :: rest) :
    ∃ front, word = c :: front ∧ front <+: rest ∧
      Token.lexeme 0 c front = .ok (token, front.length) := by
  obtain ⟨d, front, rfl, hread⟩ := h.lexeme
  obtain ⟨rfl, hfront⟩ := List.cons_prefix_cons.mp hword
  exact ⟨front, rfl, hfront, hread⟩

theorem Splits.token {front rest : List Char} {tokens : List PositionedToken} {c : Char} {p : Nat}
    {token : Token} {count : Nat} (h : Splits front tokens (c :: rest)) (hc : isBlank c = false)
    (hread : Token.lexeme p c rest = .ok (token, count)) :
    Splits (front ++ c :: rest.take count) (tokens ++ [⟨token, byteLength front⟩])
      (rest.drop count) := by
  have hreach := lexeme_reach hread
  have hlength : (rest.take count).length = count := List.length_take_of_le hreach.fits
  have hword : IsLexeme (c :: rest.take count) token :=
    isLexeme_of_lexeme hc (by rw [hlength]; exact hreach.alone)
  have hsplit : c :: rest.take count ++ rest.drop count = c :: rest := by
    rw [List.cons_append, List.take_append_drop]
  refine .lexeme (by rwa [hsplit]) hword fun longer other hlonger hother => ?_
  rw [hsplit] at hlonger
  obtain ⟨more, rfl, hmore, hwhole⟩ := hother.front hlonger
  have := hreach.longest more other hmore hwhole
  simp only [List.length_cons, hlength]
  omega

theorem stops_numeral {p : Nat} {c : Char} {rest : List Char} {cause : ReadError}
    (hc : c = '-' ∨ c.isDigit = true) (hbegins : beginsNumeral c rest = true)
    (h : scanNumeral p c rest = .error cause) : Stops p (c :: rest) cause := by
  obtain ⟨value, hvalue⟩ := numeral_of_begins hc hbegins
  have hsplit : c :: rest = c :: rest.takeWhile isDigitPart ++ rest.dropWhile isDigitPart := by
    rw [List.cons_append, List.takeWhile_append_dropWhile]
  rw [scanNumeral, if_pos hbegins] at h
  cases hread : ofNumeral (c :: rest.takeWhile isDigitPart) with
  | ok token => rw [hread] at h; cases h
  | error other =>
      rw [hread] at h
      obtain rfl : other = cause := Except.error.inj h
      obtain ⟨rfl, hrange⟩ := ofNumeral_eq_error hvalue hread
      rw [hsplit]
      refine .numeral hvalue (fun d hd => ?_) hrange
      have hhead := List.head?_dropWhile_not isDigitPart rest
      rwa [Option.mem_def.mp hd] at hhead

-- Where nothing is read, no lexeme begins, or a number that is too large does.
theorem stops_of_lexeme {p : Nat} {c : Char} {rest : List Char} {cause : ReadError}
    (hc : isBlank c = false) (h : Token.lexeme p c rest = .error cause) :
    Stops p (c :: rest) cause := by
  cases rule c with
  | pair second one two _ _ _ hrule =>
      rw [hrule] at h
      cases h
  | bracket token _ hrule =>
      rw [hrule] at h
      cases h
  | quoted hquote hrule =>
      rw [hrule] at h
      unfold scanQuoted at h
      split at h
      · cases h
      · rename_i hread
        obtain rfl := Except.error.inj h
        refine .quotation hquote fun word token hword hlexeme => ?_
        obtain ⟨front, rfl, ⟨more, rfl⟩, hwhole⟩ := hlexeme.front hword
        rw [hrule] at hwhole
        obtain ⟨text, hfront, -⟩ := scanQuoted_eq_ok hwhole
        rw [readQuoted_append hfront more] at hread
        cases hread
  | numeral hnumeral hrule =>
      rw [hrule] at h
      by_cases hbegins : beginsNumeral c rest = true
      · exact stops_numeral hnumeral hbegins h
      · rw [scanNumeral, if_neg hbegins] at h
        obtain rfl := Except.error.inj h
        refine .character hc fun word token hword hlexeme => ?_
        obtain ⟨front, rfl, hfront, hwhole⟩ := hlexeme.front hword
        rw [hrule] at hwhole
        exact hbegins (beginsNumeral_mono hfront (scanNumeral_eq_ok hwhole).1)
  | word hrule =>
      rw [hrule] at h
      cases h
  | unknown hrule =>
      rw [hrule] at h
      obtain rfl := Except.error.inj h
      refine .character hc fun word token hword hlexeme => ?_
      obtain ⟨front, rfl, -, hwhole⟩ := hlexeme.front hword
      rw [hrule] at hwhole
      cases hwhole

-- Scanning goes on until all is split, or stops where nothing can be read.
theorem Splits.scanned {front rest : List Char} {tokens : List PositionedToken}
    (h : Splits front tokens rest) :
    ∃ front' tokens' rest', front ++ rest = front' ++ rest' ∧ Splits front' tokens' rest' ∧
      match scanFrom (byteLength front) rest with
      | .ok more => rest' = [] ∧ tokens ++ more = tokens'
      | .error cause => Stops (byteLength front') rest' cause := by
  generalize hp : byteLength front = p
  fun_induction scanFrom p rest generalizing front tokens with
  | case1 => exact ⟨front, tokens, [], rfl, h, rfl, List.append_nil _⟩
  | case2 p c rest hblank ih =>
      obtain ⟨front', tokens', rest', hwhole, hsplits, hend⟩ := ih (h.blank hblank) (by simp [hp])
      exact ⟨front', tokens', rest', by rw [← hwhole, List.append_cons], hsplits, hend⟩
  | case3 p c rest hblank ih =>
      have hc : isBlank c = false := Bool.eq_false_iff.mpr hblank
      subst hp
      cases hread : Token.lexeme (byteLength front) c rest with
      | error cause => exact ⟨front, tokens, c :: rest, rfl, h, stops_of_lexeme hc hread⟩
      | ok found =>
          obtain ⟨token, count⟩ := found
          obtain ⟨front', tokens', rest', hwhole, hsplits, hend⟩ :=
            ih count (h.token hc hread) (by simp; omega)
          refine ⟨front', tokens', rest', ?_, hsplits, ?_⟩
          · rw [← hwhole, List.append_assoc, List.cons_append, List.take_append_drop]
          · dsimp only [ok_bind] at hend ⊢
            split at hend
            · rename_i more hmore
              rw [hmore]
              obtain ⟨rfl, rfl⟩ := hend
              exact ⟨rfl, by simp⟩
            · rename_i cause hcause
              rw [hcause]
              exact hend

-- Each token is before some of what has been split.
theorem Splits.position {front rest : List Char} {tokens : List PositionedToken}
    (h : Splits front tokens rest) :
    ∀ token ∈ tokens, ∃ before after, front = before ++ after ∧ after ≠ [] ∧
      token.position = byteLength before := by
  induction h with
  | nil => simp
  | @blank front rest tokens c h hc ih =>
      intro token htoken
      obtain ⟨before, after, rfl, hafter, hposition⟩ := ih token htoken
      exact ⟨before, after ++ [c], by simp, by simp, hposition⟩
  | @lexeme front word rest tokens token h hword hlongest ih =>
      intro other hother
      rcases List.mem_append.mp hother with hother | hother
      · obtain ⟨before, after, rfl, hafter, hposition⟩ := ih other hother
        exact ⟨before, after ++ word, by simp, by simp [hafter], hposition⟩
      · obtain rfl := List.mem_singleton.mp hother
        exact ⟨front, word, rfl, hword.nonempty, rfl⟩

theorem Splits.ascending {front rest : List Char} {tokens : List PositionedToken}
    (h : Splits front tokens rest) : tokens.Pairwise fun a b => a.position < b.position := by
  induction h with
  | nil => exact .nil
  | blank h hc ih => exact ih
  | @lexeme front word rest tokens token h hword hlongest ih =>
      refine List.pairwise_append.mpr ⟨ih, List.pairwise_singleton _ _, fun a ha b hb => ?_⟩
      obtain rfl := List.mem_singleton.mp hb
      obtain ⟨before, after, rfl, hafter, hposition⟩ := h.position a ha
      have := byteLength_pos hafter
      rw [hposition]
      simp
      omega

theorem Splits.isValid {front rest : List Char} {tokens : List PositionedToken}
    (h : Splits front tokens rest) :
    ∀ token ∈ tokens, String.Pos.Raw.IsValid (.ofList (front ++ rest)) ⟨token.position⟩ := by
  intro token htoken
  obtain ⟨before, after, rfl, -, hposition⟩ := h.position token htoken
  rw [hposition, List.append_assoc]
  exact isValid_byteLength before (after ++ rest)

theorem IsLexeme.numeral {word : List Char} {n : Int64} (h : IsLexeme word (.int n)) :
    Numeral word n.toInt := by
  obtain ⟨c, rest, rfl, hread⟩ := h.lexeme
  simpa using numeral_of_lexeme hread

-- Scanning splits a text into white space and the lexemes of its tokens, up to its end or to the
-- place where it stops. The tokens are at ascending byte offsets, at each of which a character
-- begins, and a number is the one that its lexeme stands for.
theorem scan_splits (text : String) :
    (∃ front tokens rest, text.toList = front ++ rest ∧ Splits front tokens rest ∧
      (tokens.Pairwise fun a b => a.position < b.position) ∧
      (∀ token ∈ tokens, String.Pos.Raw.IsValid text ⟨token.position⟩) ∧
      match scan text with
      | .ok found => rest = [] ∧ found = tokens
      | .error cause => Stops (byteLength front) rest cause) ∧
    ∀ word n, IsLexeme word (.int n) → Numeral word n.toInt := by
  have hstart : Splits [] [] text.toList := .nil
  obtain ⟨front, tokens, rest, hwhole, hsplits, hend⟩ := hstart.scanned
  rw [List.nil_append] at hwhole
  have htext : text = .ofList (front ++ rest) := by rw [← hwhole, String.ofList_toList]
  refine ⟨⟨front, tokens, rest, hwhole, hsplits, hsplits.ascending, ?_, hend⟩, fun _ _ h => h.numeral⟩
  rw [htext]
  exact hsplits.isValid

-- Offsets count bytes, so that a letter outside ASCII moves what follows it by more than one.
theorem scan_splits_accented :
    scan "'é'<-1_0  ~" = .error (.unexpectedCharacter '~' 11) ∧
      IsLexeme ['-', '1', '_', '0'] (.int (-10)) ∧ Numeral ['-', '1', '_', '0'] (-10) ∧
      ∃ front tokens rest, "'é'<-1_0  ~".toList = front ++ rest ∧ Splits front tokens rest ∧
        Stops (byteLength front) rest (.unexpectedCharacter '~' 11) := by
  have hscan : scan "'é'<-1_0  ~" = .error (.unexpectedCharacter '~' 11) := by cbv
  have hword : IsLexeme ['-', '1', '_', '0'] (.int (-10)) :=
    ⟨by decide, by rintro c ⟨⟩; rfl, by rintro c ⟨⟩; rfl, by cbv⟩
  obtain ⟨⟨front, tokens, rest, hwhole, hsplits, -, -, hend⟩, hvalue⟩ := scan_splits "'é'<-1_0  ~"
  rw [hscan] at hend
  exact ⟨hscan, hword, hvalue _ _ hword, front, tokens, rest, hwhole, hsplits, hend⟩

end FilteredFeed.Filter.Token
