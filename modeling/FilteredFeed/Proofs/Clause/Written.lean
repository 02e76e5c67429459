import FilteredFeed.Clause.Parser
import FilteredFeed.Proofs.Clause.Scan
import FilteredFeed.Proofs.Grammar.Chain

namespace FilteredFeed.Clause

open FilteredFeed.Feed FilteredFeed.Filter FilteredFeed.Grammar FilteredFeed.Text

variable [Patterns]

-- The number of levels; a leaf has one.
def Condition.height : Condition → Nat
  | .column _ | .integer _ | .text _ | .null => 1
  | .compare left _ right => max left.height right.height + 1
  | .isNull inner _ => inner.height + 1
  | .like inner _ => inner.height + 1
  | .regexp inner _ => inner.height + 1
  | .and left right => max left.height right.height + 1
  | .or left right => max left.height right.height + 1
  | .not inner => inner.height + 1

-- What follows an operand of a connective in a clause that is written.
def Stops (rest : List Token) : Prop :=
  ∀ token ∈ rest.head?, token = .closeParen ∨ token = .word "AND" ∨ token = .word "OR"

section Stops

variable {rest : List Token}

omit [Patterns] in
@[simp] theorem stops_nil : Stops [] := by simp [Stops]

omit [Patterns] in
@[simp] theorem stops_closeParen : Stops (.closeParen :: rest) := by simp [Stops]

omit [Patterns] in
@[simp] theorem stops_and : Stops (.word "AND" :: rest) := by simp [Stops]

omit [Patterns] in
@[simp] theorem stops_or : Stops (.word "OR" :: rest) := by simp [Stops]

end Stops

section Chain

variable {reader : Reader Token Condition} {operator : Operator Token Condition}
variable {tokens rest : List Token} {left right : Condition} {limit : Nat}

-- A single operand before a token that is no sign of the operator.
theorem chain_one (hread : reader tokens = .ok ⟨left, left.height, rest⟩)
    (hstop : ∀ token ∈ rest.head?, operator.isSign token = false) :
    reader.chain operator limit tokens = .ok ⟨left, left.height, rest⟩ := by
  simp only [Reader.chain, hread, ok_bind]
  exact extend_stop hstop

-- Two operands with the sign between them.
theorem chain_two {sign : Token} {middle : List Token}
    (hleft : reader tokens = .ok ⟨left, left.height, sign :: middle⟩)
    (hsign : operator.isSign sign = true)
    (hright : reader middle = .ok ⟨right, right.height, rest⟩)
    (hheight : max left.height right.height + 1 ≤ limit)
    (hstop : ∀ token ∈ rest.head?, operator.isSign token = false) :
    reader.chain operator limit tokens =
      .ok ⟨operator.node left right, max left.height right.height + 1, rest⟩ := by
  obtain ⟨rounds, rfl⟩ : ∃ rounds, limit = rounds + 1 := ⟨limit - 1, by omega⟩
  simp only [Reader.chain, hleft, ok_bind]
  unfold Reader.extend
  simp only [hsign, if_true, hright, ok_bind, Operator.join, deeper_eq hheight]
  exact extend_stop hstop

end Chain

-- What reads a clause in parentheses where so many levels may still be opened.
def opener : Nat → Option (Reader Token Condition)
  | 0 => none
  | room + 1 => some (expression (unary room))

theorem unary_cons {room : Nat} {token : Token} {rest : List Token}
    (h : token.isKeyword "NOT" = false) :
    unary room (token :: rest) = comparison (operand (opener room)) (token :: rest) := by
  cases room <;> simp [unary, opener, h]

theorem suffix_stop {reader : Reader Token Condition} {left : Parsed Token Condition}
    (h : Stops left.rest) : suffix reader left = .ok left := by
  unfold suffix
  split
  · rename_i rel rest hrest
    have := h _ (by rw [hrest]; rfl)
    simp at this
  · rename_i token rest _ hrest
    rcases h token (by rw [hrest]; rfl) with rfl | rfl | rfl <;> rfl
  · rfl

-- The tokens are read as the condition where so many levels may still be opened: `Reads` as an
-- operand of a connective, `ReadsWhole` as a clause of its own or in parentheses.
def Reads (nesting : Nat) (tokens : List Token) (condition : Condition) : Prop :=
  ∀ room rest, nesting ≤ room → Stops rest →
    unary room (tokens ++ rest) = .ok ⟨condition, condition.height, rest⟩

def ReadsWhole (nesting : Nat) (tokens : List Token) (condition : Condition) : Prop :=
  ∀ room rest, nesting ≤ room → (∀ token ∈ rest.head?, token = Token.closeParen) →
    expression (unary room) (tokens ++ rest) = .ok ⟨condition, condition.height, rest⟩

section Reads

variable {n m : Nat} {tokens tokens' rest : List Token} {left right : Condition}

omit [Patterns] in
theorem stops_of_closes (h : ∀ token ∈ rest.head?, token = Token.closeParen) : Stops rest :=
  fun token ht => .inl (h token ht)

omit [Patterns] in
theorem no_sign_of_closes {keyword : String} (h : ∀ token ∈ rest.head?, token = Token.closeParen) :
    ∀ token ∈ rest.head?, token.isKeyword keyword = false := by
  intro token ht
  rw [h token ht]
  rfl

theorem Reads.whole (h : Reads n tokens left) : ReadsWhole n tokens left := by
  intro room rest hroom hclose
  exact chain_one (chain_one (h room rest hroom (stops_of_closes hclose)) (no_sign_of_closes hclose))
    (no_sign_of_closes hclose)

theorem Reads.and (hl : Reads n tokens left) (hr : Reads m tokens' right)
    (hheight : (Condition.and left right).height ≤ maxClauseDepth) :
    ReadsWhole (max n m) (tokens ++ .word "AND" :: tokens') (.and left right) := by
  intro room rest hroom hclose
  have hleft := hl room (.word "AND" :: (tokens' ++ rest)) (by omega) (by simp)
  have hright := hr room rest (by omega) (stops_of_closes hclose)
  have hsign : (Token.word "AND").isKeyword "AND" = true := by decide
  rw [List.append_assoc, List.cons_append]
  exact chain_one (chain_two hleft hsign hright hheight (no_sign_of_closes hclose))
    (no_sign_of_closes hclose)

theorem Reads.or (hl : Reads n tokens left) (hr : Reads m tokens' right)
    (hheight : (Condition.or left right).height ≤ maxClauseDepth) :
    ReadsWhole (max n m) (tokens ++ .word "OR" :: tokens') (.or left right) := by
  intro room rest hroom hclose
  have hleft := hl room (.word "OR" :: (tokens' ++ rest)) (by omega) (by simp)
  have hright := hr room rest (by omega) (stops_of_closes hclose)
  have hsign : (Token.word "OR").isKeyword "OR" = true := by decide
  have hand : (Token.word "OR").isKeyword "AND" = false := by decide
  rw [List.append_assoc, List.cons_append]
  refine chain_two (chain_one hleft ?_) hsign (chain_one hright (no_sign_of_closes hclose))
    hheight (no_sign_of_closes hclose)
  rintro token ⟨⟩
  exact hand

theorem Reads.not (h : Reads n tokens left)
    (hheight : (Condition.not left).height ≤ maxClauseDepth) :
    Reads (n + 1) (.word "NOT" :: tokens) (.not left) := by
  intro room rest hroom hstop
  obtain ⟨room, rfl⟩ : ∃ r, room = r + 1 := ⟨room - 1, by omega⟩
  have hinner := h room rest (by omega) hstop
  have hdeeper := @deeper_eq maxClauseDepth left.height 0 (by simpa [Condition.height] using hheight)
  have hkey : (Token.word "NOT").isKeyword "NOT" = true := by decide
  simp only [List.cons_append, unary, hkey, if_true, hinner, ok_bind, wrap, hdeeper]
  simp [Condition.height, pure, Except.pure]

theorem ReadsWhole.parentheses (h : ReadsWhole n tokens left) :
    Reads (n + 1) (.openParen :: tokens ++ [.closeParen]) left := by
  intro room rest hroom hstop
  obtain ⟨room, rfl⟩ : ∃ r, room = r + 1 := ⟨room - 1, by omega⟩
  have hinner := h room (.closeParen :: rest) (by omega) (by simp)
  have htokens : Token.openParen :: tokens ++ [.closeParen] ++ rest =
      .openParen :: (tokens ++ .closeParen :: rest) := by simp
  rw [htokens, unary_cons (by decide)]
  simp only [comparison, operand, opener, hinner, ok_bind]
  exact suffix_stop hstop

end Reads

-- A token that is an operand alone.
structure IsLeaf (token : Token) (condition : Condition) : Prop where
  height : condition.height = 1
  not_keyword : token.isKeyword "NOT" = false
  read : ∀ nested rest, operand nested (token :: rest) = .ok ⟨condition, condition.height, rest⟩

theorem isLeaf_column (field : Field) : IsLeaf (.word field.name) (.column field) := by
  refine ⟨rfl, by cases field <;> decide, fun nested rest => ?_⟩
  cases field <;> rfl

theorem isLeaf_integer (n : Int64) : IsLeaf (.integer n) (.integer n) := ⟨rfl, rfl, fun _ _ => rfl⟩

theorem isLeaf_text (s : String) : IsLeaf (.str s) (.text s) := ⟨rfl, rfl, fun _ _ => rfl⟩

section Leaf

variable {token token' : Token} {left right : Condition}

-- A leaf with what may follow it, read by `suffix`.
theorem IsLeaf.reads {more : List Token} {condition : Condition} (h : IsLeaf token left)
    (hsuffix : ∀ nested rest, Stops rest →
      suffix (operand nested) ⟨left, left.height, more ++ rest⟩ =
        .ok ⟨condition, condition.height, rest⟩) :
    Reads 0 (token :: more) condition := by
  intro room rest _ hstop
  rw [List.cons_append, unary_cons h.not_keyword, comparison, h.read, ok_bind]
  exact hsuffix _ rest hstop

theorem IsLeaf.compare (hl : IsLeaf token left) (hr : IsLeaf token' right) (rel : Relation) :
    Reads 0 [token, .op rel, token'] (.compare left rel right) := by
  refine hl.reads fun nested rest _ => ?_
  have hheight : max left.height right.height + 1 ≤ maxClauseDepth := by
    rw [hl.height, hr.height]; decide
  simp only [suffix, List.cons_append, List.nil_append, hr.read, ok_bind, deeper_eq hheight]
  rfl

theorem IsLeaf.wrap (h : IsLeaf token left) (node : Condition → Condition) (old rest : List Token) :
    wrap node ⟨left, left.height, old⟩ rest = .ok ⟨node left, left.height + 1, rest⟩ := by
  have hheight : max left.height 0 + 1 ≤ maxClauseDepth := by
    rw [h.height]; decide
  simp only [Clause.wrap, deeper_eq hheight, Nat.max_zero]
  rfl

theorem IsLeaf.isNull (h : IsLeaf token left) :
    Reads 0 [token, .word "IS", .word "NULL"] (.isNull left false) :=
  h.reads fun _ rest _ => h.wrap (.isNull · false) _ rest

theorem IsLeaf.isNotNull (h : IsLeaf token left) :
    Reads 0 [token, .word "IS", .word "NOT", .word "NULL"] (.isNull left true) :=
  h.reads fun _ rest _ => h.wrap (.isNull · true) _ rest

theorem IsLeaf.like (h : IsLeaf token left) (pattern : String) (escape : Char) :
    Reads 0 [token, .word "LIKE", .str pattern, .word "ESCAPE", .str (.ofList [escape])]
      (.like left (LikeToken.ofPattern (some escape) pattern.toList)) := by
  refine h.reads fun _ rest _ => ?_
  have hescape : escapeAfter (.word "ESCAPE" :: .str (.ofList [escape]) :: rest) =
      .ok (some escape, rest) := by
    have hkey : (Token.word "ESCAPE").isKeyword "ESCAPE" = true := by decide
    simp [escapeAfter, hkey, stringAfter, pure, Except.pure]
  have his : (Token.word "LIKE").isKeyword "IS" = false := by decide
  have hlike : (Token.word "LIKE").isKeyword "LIKE" = true := by decide
  simp only [suffix, List.cons_append, List.nil_append, his, hlike, Bool.false_eq_true, if_false,
    if_true, stringAfter, ok_bind, hescape]
  exact h.wrap _ _ rest

theorem IsLeaf.regexp (h : IsLeaf token left) {pattern : String} {matcher : Patterns.Matcher}
    (hp : Patterns.compile pattern = .ok matcher) :
    Reads 0 [token, .word "REGEXP", .str pattern] (.regexp left matcher) := by
  refine h.reads fun _ rest _ => ?_
  have his : (Token.word "REGEXP").isKeyword "IS" = false := by decide
  have hlike : (Token.word "REGEXP").isKeyword "LIKE" = false := by decide
  have hregexp : (Token.word "REGEXP").isKeyword "REGEXP" = true := by decide
  simp only [suffix, List.cons_append, List.nil_append, his, hlike, hregexp, Bool.false_eq_true,
    if_false, if_true, stringAfter, ok_bind, hp]
  exact h.wrap _ _ rest

end Leaf

-- A text that is scanned and read as a condition, as an operand where so many levels may be opened.
def Written (nesting : Nat) (text : List Char) (condition : Condition) : Prop :=
  ∃ tokens, Reads nesting tokens condition ∧
    ∀ rest, Token.Ends rest → Token.scan? (text ++ rest) = (Token.scan? rest).map (tokens ++ ·)

section Written

variable {n m : Nat} {text text' : List Char} {left right : Condition}

theorem Written.mono (h : Written n text left) (hnm : n ≤ m) : Written m text left := by
  obtain ⟨tokens, hread, hscan⟩ := h
  exact ⟨tokens, fun room rest hroom => hread room rest (by omega), hscan⟩

theorem Written.parentheses (h : Written n text left) :
    Written (n + 1) ('(' :: text ++ [')']) left := by
  obtain ⟨tokens, hread, hscan⟩ := h
  refine ⟨_, hread.whole.parentheses, fun rest _ => ?_⟩
  simp [hscan, Function.comp_def]

omit [Patterns] in
theorem scan?_keyword {word : List Char} (hw : Token.IsName word = true) (rest : List Char) :
    Token.scan? (word ++ ' ' :: rest) = (Token.scan? rest).map (.word (.ofList word) :: ·) := by
  rw [Token.scan?_word hw (by simp), Token.scan?_space]

theorem Written.and (hl : Written n text left) (hr : Written m text' right)
    (hheight : (Condition.and left right).height ≤ maxClauseDepth) :
    Written (max n m + 1) ('(' :: text ++ " AND ".toList ++ text' ++ [')']) (.and left right) := by
  obtain ⟨tokens, hread, hscan⟩ := hl
  obtain ⟨tokens', hread', hscan'⟩ := hr
  refine ⟨_, (hread.and hread' hheight).parentheses, fun rest _ => ?_⟩
  have hword := @scan?_keyword "AND".toList (by decide) (text' ++ ')' :: rest)
  simp at hword
  simp [hscan, hword, hscan', Function.comp_def]

theorem Written.or (hl : Written n text left) (hr : Written m text' right)
    (hheight : (Condition.or left right).height ≤ maxClauseDepth) :
    Written (max n m + 1) ('(' :: text ++ " OR ".toList ++ text' ++ [')']) (.or left right) := by
  obtain ⟨tokens, hread, hscan⟩ := hl
  obtain ⟨tokens', hread', hscan'⟩ := hr
  refine ⟨_, (hread.or hread' hheight).parentheses, fun rest _ => ?_⟩
  have hword := @scan?_keyword "OR".toList (by decide) (text' ++ ')' :: rest)
  simp at hword
  simp [hscan, hword, hscan', Function.comp_def]

theorem Written.not (h : Written n text left)
    (hheight : (Condition.not left).height ≤ maxClauseDepth) :
    Written (n + 2) ("(NOT ".toList ++ text ++ [')']) (.not left) := by
  obtain ⟨tokens, hread, hscan⟩ := h
  refine ⟨_, (hread.not hheight).whole.parentheses, fun rest _ => ?_⟩
  have hword := @scan?_keyword "NOT".toList (by decide) (text ++ ')' :: rest)
  simp at hword
  simp [hscan, hword, Function.comp_def]

-- A clause that is written is read back.
theorem Written.parse (h : Written n text left) (hn : n ≤ maxClauseDepth) :
    Condition.parse (.ofList text) = .ok left := by
  obtain ⟨tokens, hread, hscan⟩ := h
  have hscan := hscan [] Token.ends_nil
  have hread := hread.whole maxClauseDepth [] hn (by simp)
  simp only [List.append_nil, Token.scan?_nil, Option.map_some] at hscan hread
  have htokens : Token.scanFrom 0 text = .ok tokens := by
    rw [Token.scan?] at hscan
    cases h : Token.scanFrom 0 text with
    | error e => rw [h] at hscan; exact absurd hscan (by simp [Except.toOption])
    | ok found => rw [h] at hscan; simpa [Except.toOption] using hscan
  have hne : tokens.isEmpty = false := by
    cases tokens with
    | nil =>
        have hempty : expression (unary maxClauseDepth) [] = .error .unexpectedEnd := rfl
        rw [hempty] at hread
        cases hread
    | cons token tokens => rfl
  simp only [Condition.parse, String.toList_ofList, htokens, ok_bind, Condition.ofTokens, hne]
  simp [hread, pure, Except.pure]

end Written

end FilteredFeed.Clause
