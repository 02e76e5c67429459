import FilteredFeed.Pattern.Builtin
import FilteredFeed.Proofs.Clause.Written
import FilteredFeed.Proofs.Filter.Grammar
import FilteredFeed.Proofs.Grammar.Phrase

namespace FilteredFeed.Clause

open FilteredFeed.Feed FilteredFeed.Grammar FilteredFeed.Text
open FilteredFeed.Filter (Relation Names ofName?_eq_some)

section

variable [Patterns]

-- The levels of the grammar, the loosest first.
inductive Level where
  | disjunction
  | conjunction
  | negation
  | comparison
  | operand
deriving DecidableEq, Repr

-- A word says a keyword in any case of its letters.
def Says (word keyword : String) : Prop :=
  word.toList.map Char.toLower = keyword.toList.map Char.toLower

instance (word keyword : String) : Decidable (Says word keyword) :=
  inferInstanceAs (Decidable (_ = _))

-- What may follow an operand in place of a relation, and the node that it makes of the operand.
inductive Suffix : List Token → (Condition → Condition) → Prop
  | isNull {is null : String} (hIs : Says is "IS") (hNull : Says null "NULL") :
      Suffix [.word is, .word null] (.isNull · false)
  | isNotNull {is not null : String} (hIs : Says is "IS") (hNot : Says not "NOT")
      (hNull : Says null "NULL") : Suffix [.word is, .word not, .word null] (.isNull · true)
  | like {like : String} (hLike : Says like "LIKE") (pattern : String) :
      Suffix [.word like, .str pattern] (.like · (LikeToken.ofPattern none pattern.toList))
  | likeEscape {like escape mark : String} {c : Char} (hLike : Says like "LIKE") (pattern : String)
      (hEscape : Says escape "ESCAPE") (single : mark.toList = [c]) :
      Suffix [.word like, .str pattern, .word escape, .str mark]
        (.like · (LikeToken.ofPattern (some c) pattern.toList))
  | regexp {regexp pattern : String} {matcher : Patterns.Matcher} (hRegexp : Says regexp "REGEXP")
      (valid : Patterns.compile pattern = .ok matcher) :
      Suffix [.word regexp, .str pattern] (.regexp · matcher)

-- The grammar of clauses: the tokens, as a phrase of the level, stand for the condition, and at most
-- so many negations and parentheses are open at once.
inductive Derives : Level → List Token → Condition → Nat → Prop
  | or {sign : String} {tokens tokens' : List Token} {left right : Condition} {n m : Nat}
      (said : Says sign "OR") (first : Derives .disjunction tokens left n)
      (last : Derives .conjunction tokens' right m) :
      Derives .disjunction (tokens ++ .word sign :: tokens') (.or left right) (max n m)
  | conjunction {tokens : List Token} {e : Condition} {n : Nat}
      (only : Derives .conjunction tokens e n) : Derives .disjunction tokens e n
  | and {sign : String} {tokens tokens' : List Token} {left right : Condition} {n m : Nat}
      (said : Says sign "AND") (first : Derives .conjunction tokens left n)
      (last : Derives .negation tokens' right m) :
      Derives .conjunction (tokens ++ .word sign :: tokens') (.and left right) (max n m)
  | negation {tokens : List Token} {e : Condition} {n : Nat}
      (only : Derives .negation tokens e n) : Derives .conjunction tokens e n
  | not {sign : String} {tokens : List Token} {e : Condition} {n : Nat} (said : Says sign "NOT")
      (inner : Derives .negation tokens e n) :
      Derives .negation (.word sign :: tokens) (.not e) (n + 1)
  | comparison {tokens : List Token} {e : Condition} {n : Nat}
      (only : Derives .comparison tokens e n) : Derives .negation tokens e n
  | compare {tokens tokens' : List Token} {left right : Condition} {n m : Nat} (rel : Relation)
      (first : Derives .operand tokens left n) (last : Derives .operand tokens' right m) :
      Derives .comparison (tokens ++ .op rel :: tokens') (.compare left rel right) (max n m)
  | suffix {tokens after : List Token} {node : Condition → Condition} {e : Condition} {n : Nat}
      (inner : Derives .operand tokens e n) (suffix : Suffix after node) :
      Derives .comparison (tokens ++ after) (node e) n
  | operand {tokens : List Token} {e : Condition} {n : Nat} (only : Derives .operand tokens e n) :
      Derives .comparison tokens e n
  | parentheses {tokens : List Token} {e : Condition} {n : Nat}
      (inner : Derives .disjunction tokens e n) :
      Derives .operand (.openParen :: tokens ++ [.closeParen]) e (n + 1)
  | column {word : String} {field : Field} (named : Names word field) :
      Derives .operand [.word word] (.column field) 0
  | integer (n : Int64) : Derives .operand [.integer n] (.integer n) 0
  | text (s : String) : Derives .operand [.str s] (.text s) 0
  | null {word : String} (said : Says word "NULL") : Derives .operand [.word word] .null 0

theorem Condition.height_pos (e : Condition) : 0 < e.height := by
  cases e <;> simp [Condition.height]

theorem Suffix.height {after : List Token} {node : Condition → Condition} (h : Suffix after node)
    (e : Condition) : (node e).height = max e.height 0 + 1 := by
  cases h <;> simp [Condition.height]

section Keywords

variable {word keyword other : String}

omit [Patterns] in
theorem isKeyword_word : (Token.word word).isKeyword keyword = true ↔ Says word keyword := by
  simp [Token.isKeyword, sameWord, lower, Says]

omit [Patterns] in
theorem isKeyword_eq_true {token : Token} (h : token.isKeyword keyword = true) :
    ∃ word, token = .word word ∧ Says word keyword := by
  cases token with
  | word name => exact ⟨name, rfl, isKeyword_word.mp h⟩
  | _ => cases h

-- A word does not say two keywords.
omit [Patterns] in
theorem Says.isKeyword_ne (h : Says word keyword) (hne : ¬Says keyword other) :
    (Token.word word).isKeyword other = false :=
  Bool.eq_false_iff.mpr fun hother => hne (h.symm.trans (isKeyword_word.mp hother))

-- No column is named like a keyword.
omit [Patterns] in
theorem not_says_of_names {field : Field} (h : Names word field)
    (hname : field.name.toList ≠ keyword.toList.map Char.toLower) : ¬Says word keyword :=
  fun hsays => hname (h.symm.trans hsays)

end Keywords

namespace Level

-- What reads a phrase of a level, where so many negations and parentheses may still be opened.
def reader (room : Nat) : Level → Reader Token Condition
  | .disjunction => expression (unary room)
  | .conjunction => Reader.chain (unary room) andOperator maxClauseDepth
  | .negation => unary room
  | .comparison => Clause.comparison (Clause.operand (opener room))
  | .operand => Clause.operand (opener room)

-- How the reader of a level goes on from a phrase of that level.
def goOn (room : Nat) : Level → Parsed Token Condition → Except ReadError (Parsed Token Condition)
  | .disjunction => (Level.conjunction.reader room).extend orOperator maxClauseDepth maxClauseDepth
  | .conjunction => (Level.negation.reader room).extend andOperator maxClauseDepth maxClauseDepth
  | .negation => pure
  | .comparison => pure
  | .operand => pure

-- The keywords with which a comparison goes on, and the tokens.
def moreKeywords : List String := ["IS", "LIKE", "ESCAPE", "REGEXP"]

def isMore : Token → Bool
  | .op _ => true
  | token => moreKeywords.any fun keyword => token.isKeyword keyword

-- The tokens that are not more of what a phrase of the level ends with.
def stopsAt : Level → Token → Bool
  | .operand, _ => true
  | .disjunction, token => !isMore token && !token.isKeyword "AND"
  | _, token => !isMore token

def EndsBefore (level : Level) (rest : List Token) : Prop :=
  ∀ token ∈ rest.head?, level.stopsAt token = true

section EndsBefore

variable {rest : List Token} {sign : String} {level : Level}

omit [Patterns] in
theorem EndsBefore.conjunction (h : Level.disjunction.EndsBefore rest) :
    Level.conjunction.EndsBefore rest :=
  fun token ht => (Bool.and_eq_true_iff.mp (h token ht)).1

theorem EndsBefore.not_and (h : Level.disjunction.EndsBefore rest) :
    ∀ token ∈ rest.head?, andOperator.isSign token = false :=
  fun token ht => by simpa [andOperator] using (Bool.and_eq_true_iff.mp (h token ht)).2

omit [Patterns] in
theorem endsBefore_nil : level.EndsBefore [] := by simp [EndsBefore]

omit [Patterns] in
theorem endsBefore_closeParen : level.EndsBefore (.closeParen :: rest) := by
  simp only [EndsBefore, List.head?_cons, Option.mem_some_iff, forall_eq']
  cases level <;> rfl

omit [Patterns] in
theorem isMore_word {keyword : String} (said : Says sign keyword)
    (hother : ∀ other ∈ moreKeywords, ¬Says keyword other) : isMore (.word sign) = false :=
  List.any_eq_false.mpr fun other hmem => by simp [said.isKeyword_ne (hother other hmem)]

omit [Patterns] in
theorem endsBefore_or (said : Says sign "OR") : level.EndsBefore (.word sign :: rest) := by
  have hmore := isMore_word said (by decide)
  simp only [EndsBefore, List.head?_cons, Option.mem_some_iff, forall_eq']
  cases level <;> simp [stopsAt, hmore, said.isKeyword_ne (by decide : ¬Says "OR" "AND")]

omit [Patterns] in
theorem endsBefore_and (said : Says sign "AND") : Level.negation.EndsBefore (.word sign :: rest) := by
  simp [EndsBefore, stopsAt, isMore_word said (by decide)]

-- A comparison that ends is followed by no keyword with which it could go on.
omit [Patterns] in
theorem EndsBefore.not_keyword {keyword : String} (h : Level.comparison.EndsBefore rest)
    (hmem : keyword ∈ Level.moreKeywords) :
    ∀ token ∈ rest.head?, token.isKeyword keyword = false := by
  intro token ht
  have hmore := h token ht
  cases token with
  | word name =>
      simp only [stopsAt, isMore, Bool.not_eq_true', List.any_eq_false] at hmore
      simpa using hmore keyword hmem
  | _ => rfl

end EndsBefore

end Level

-- What a phrase is read to within the limits.
def readAs (room n : Nat) (e : Condition) (rest : List Token) :
    Except ReadError (Parsed Token Condition) :=
  readWithin maxClauseDepth Condition.height room n e rest

section Complete

variable {room n m : Nat} {left right e : Condition} {tokens rest old : List Token}
variable {reader : Reader Token Condition} {node : Condition → Condition}

theorem wrap_eq (hn : n ≤ room) (hheight : (node e).height = max e.height 0 + 1) :
    wrap node ⟨e, e.height, old⟩ rest = readAs room n (node e) rest :=
  deeper_node hn hheight

theorem suffix_end (h : Level.comparison.EndsBefore rest) {height : Nat} :
    suffix reader ⟨e, height, rest⟩ = .ok ⟨e, height, rest⟩ := by
  unfold suffix
  dsimp only
  split
  · exact absurd (h _ rfl) (by simp [Level.stopsAt, Level.isMore])
  · simp only [h.not_keyword (by decide : "IS" ∈ _) _ rfl,
      h.not_keyword (by decide : "LIKE" ∈ _) _ rfl,
      h.not_keyword (by decide : "REGEXP" ∈ _) _ rfl, Bool.false_eq_true, if_false]
  · rfl

omit [Patterns] in
theorem escapeAfter_end (h : Level.comparison.EndsBefore rest) :
    escapeAfter rest = .ok (none, rest) := by
  unfold escapeAfter
  split
  · simp only [h.not_keyword (by decide : "ESCAPE" ∈ _) _ rfl, Bool.false_eq_true, if_false]
  · rfl

theorem suffix_eq {after : List Token} (hafter : Suffix after node)
    (hrest : Level.comparison.EndsBefore rest) :
    suffix reader ⟨e, e.height, after ++ rest⟩ = wrap node ⟨e, e.height, after ++ rest⟩ rest := by
  cases hafter with
  | isNull hIs hNull =>
      simp [suffix, isKeyword_word.mpr hIs, isKeyword_word.mpr hNull,
        hNull.isKeyword_ne (by decide : ¬Says "NULL" "NOT")]
  | isNotNull hIs hNot hNull =>
      simp [suffix, isKeyword_word.mpr hIs, isKeyword_word.mpr hNull, isKeyword_word.mpr hNot]
  | like hLike pattern =>
      simp [suffix, isKeyword_word.mpr hLike, hLike.isKeyword_ne (by decide : ¬Says "LIKE" "IS"),
        stringAfter, escapeAfter_end hrest]
  | likeEscape hLike pattern hEscape single =>
      simp [suffix, isKeyword_word.mpr hLike, hLike.isKeyword_ne (by decide : ¬Says "LIKE" "IS"),
        stringAfter, escapeAfter, isKeyword_word.mpr hEscape, single, pure, Except.pure]
  | regexp hRegexp valid =>
      simp [suffix, isKeyword_word.mpr hRegexp,
        hRegexp.isKeyword_ne (by decide : ¬Says "REGEXP" "IS"),
        hRegexp.isKeyword_ne (by decide : ¬Says "REGEXP" "LIKE"), stringAfter, valid]

theorem readAs_suffix {after : List Token} (hafter : Suffix after node)
    (hrest : Level.comparison.EndsBefore rest) :
    (readAs room n e (after ++ rest) >>= suffix reader) = readAs room n (node e) rest := by
  have hheight := hafter.height e
  refine readWithin_bind (fun h => ⟨h.1, by omega⟩) fun hn _ => ?_
  rw [suffix_eq hafter hrest]
  exact wrap_eq hn hheight

theorem readAs_compare {rel : Relation} (hread : reader tokens = readAs room m right rest) :
    (readAs room n left (.op rel :: tokens) >>= suffix reader) =
      readAs room (max n m) (.compare left rel right) rest := by
  have hheight : (Condition.compare left rel right).height = max left.height right.height + 1 := rfl
  refine readWithin_bind (fun h => ⟨by omega, by omega⟩) fun hn _ => ?_
  change (reader tokens >>= fun right => _) = _
  rw [hread]
  refine readWithin_bind (fun h => ⟨by omega, by omega⟩) fun hm _ => ?_
  exact deeper_node (by omega) hheight

theorem readAs_not :
    (readAs room n e rest >>= fun inner => wrap .not inner inner.rest) =
      readAs (room + 1) (n + 1) (.not e) rest := by
  have hheight : (Condition.not e).height = max e.height 0 + 1 := by simp [Condition.height]
  refine readWithin_bind (fun h => ⟨by omega, by omega⟩) fun hn _ => ?_
  exact wrap_eq (Nat.succ_le_succ hn) hheight

-- What is read in parentheses, past the one that closes them.
def closeAfter (inner : Parsed Token Condition) : Except ReadError (Parsed Token Condition) :=
  match inner.rest with
  | .closeParen :: rest => return { inner with rest }
  | _ => throw .unclosedParenthesis

theorem readAs_parentheses :
    (readAs room n e (.closeParen :: rest) >>= closeAfter) = readAs (room + 1) (n + 1) e rest :=
  readWithin_bind (fun h => ⟨by omega, h.2⟩) fun hn hh =>
    (readWithin_eq (Nat.succ_le_succ hn) hh).symm

theorem readAs_leaf (hheight : e.height = 1) : readAs room 0 e rest = .ok (.leaf e rest) := by
  rw [readAs, readWithin_eq (Nat.zero_le _) (by rw [hheight]; decide), hheight]
  rfl

end Complete

-- What a comparison begins with is not a negation.
theorem Derives.begins {level : Level} {tokens : List Token} {e : Condition} {n : Nat}
    (h : Derives level tokens e n) : tokens ≠ [] ∧ (level = .comparison ∨ level = .operand →
      ∀ token ∈ tokens.head?, token.isKeyword "NOT" = false) := by
  induction h with
  | or | and | not => simp
  | conjunction _ ih | negation _ ih | comparison _ ih => exact ⟨ih.1, by simp⟩
  | operand _ ih => exact ⟨ih.1, fun _ => ih.2 (.inr rfl)⟩
  | compare _ _ _ ih | suffix _ _ ih =>
      refine ⟨by simp [ih.1], fun _ token ht => ih.2 (.inr rfl) token ?_⟩
      rwa [List.head?_append_of_ne_nil _ ih.1] at ht
  | parentheses | integer | text => simp [Token.isKeyword]
  | null said => simp [said.isKeyword_ne (by decide : ¬Says "NULL" "NOT")]
  | @column word field named =>
      have hnot : ¬Says word "NOT" := not_says_of_names named (by cases field <;> decide)
      simpa [← isKeyword_word] using hnot

-- A phrase of the grammar is read as its condition, or is too deep. The induction is on the
-- derivation: a chain read so far is itself a phrase of its level, and the reader goes on from there.
theorem Derives.reader_eq {level : Level} {tokens : List Token} {e : Condition} {n : Nat}
    (h : Derives level tokens e n) {room : Nat} {rest : List Token} (hrest : level.EndsBefore rest) :
    level.reader room (tokens ++ rest) = readAs room n e rest >>= level.goOn room := by
  induction h generalizing room rest with
  | @or sign tokens tokens' left right n m said first last ihfirst ihlast =>
      have hfirst := @ihfirst room (.word sign :: (tokens' ++ rest)) (Level.endsBefore_or said)
      have hlast := @ihlast room rest hrest.conjunction
      rw [Level.goOn, readAs, readWithin_stop hrest.not_and] at hlast
      rw [List.append_assoc, List.cons_append, hfirst]
      exact readWithin_join left.height_pos (isKeyword_word.mpr said) rfl hlast
  | conjunction only ih =>
      have honly := @ih room rest hrest.conjunction
      rw [Level.goOn, readAs, readWithin_stop hrest.not_and] at honly
      exact congrArg (· >>= Level.disjunction.goOn room) honly
  | @and sign tokens tokens' left right n m said first last ihfirst ihlast =>
      have hfirst := @ihfirst room (.word sign :: (tokens' ++ rest)) (Level.endsBefore_and said)
      have hlast := @ihlast room rest hrest
      rw [Level.goOn, bind_pure] at hlast
      rw [List.append_assoc, List.cons_append, hfirst]
      exact readWithin_join left.height_pos (isKeyword_word.mpr said) rfl hlast
  | negation only ih =>
      have honly := @ih room rest hrest
      rw [Level.goOn, bind_pure] at honly
      exact congrArg (· >>= Level.conjunction.goOn room) honly
  | @not sign tokens e n said inner ih =>
      rw [Level.goOn, bind_pure, List.cons_append]
      have hsign := isKeyword_word.mpr said
      change unary room (.word sign :: (tokens ++ rest)) = _
      cases room with
      | zero =>
          rw [readAs, readWithin_of_not (by omega)]
          simp [unary, hsign]
      | succ room =>
          have hinner := @ih room rest hrest
          rw [Level.goOn, bind_pure] at hinner
          rw [← readAs_not, ← hinner]
          simp [unary, hsign, Level.reader]
  | @comparison tokens e n only ih =>
      have honly := @ih room rest hrest
      obtain ⟨hne, hbegins⟩ := only.begins
      cases tokens with
      | nil => exact absurd rfl hne
      | cons token tokens => exact (unary_cons (hbegins (.inl rfl) token rfl)).trans honly
  | @compare tokens tokens' left right n m rel first last ihfirst ihlast =>
      have hfirst := @ihfirst room (.op rel :: (tokens' ++ rest)) (fun _ _ => rfl)
      have hlast := @ihlast room rest (fun _ _ => rfl)
      rw [Level.goOn, bind_pure]
      rw [Level.goOn, bind_pure] at hfirst hlast
      rw [List.append_assoc, List.cons_append, ← readAs_compare hlast, ← hfirst]
      rfl
  | @suffix tokens after node e n inner hafter ih =>
      have hinner := @ih room (after ++ rest) (fun _ _ => rfl)
      rw [Level.goOn, bind_pure]
      rw [Level.goOn, bind_pure] at hinner
      rw [List.append_assoc, ← readAs_suffix hafter hrest, ← hinner]
      rfl
  | @operand tokens e n only ih =>
      have honly := @ih room rest (fun _ _ => rfl)
      rw [Level.goOn, bind_pure]
      rw [Level.goOn, bind_pure] at honly
      have hstop : (readAs room n e rest >>= Clause.suffix (Level.operand.reader room)) =
          readAs room n e rest :=
        readWithin_bind id fun hn hh => (suffix_end hrest).trans (readWithin_eq hn hh).symm
      rw [← hstop, ← honly]
      rfl
  | @parentheses tokens e n inner ih =>
      rw [Level.goOn, bind_pure, List.append_assoc, List.cons_append, List.singleton_append]
      cases room with
      | zero => rw [readAs, readWithin_of_not (by omega)]; rfl
      | succ room =>
          have hinner := @ih room (.closeParen :: rest) Level.endsBefore_closeParen
          rw [Level.goOn, readAs, readWithin_stop (by simp [orOperator, Token.isKeyword])] at hinner
          rw [← readAs_parentheses, readAs, ← hinner]
          rfl
  | @column word field named =>
      rw [Level.goOn, bind_pure, readAs_leaf rfl]
      have hnull : ¬Says word "NULL" := not_says_of_names named (by cases field <;> decide)
      have hword : sameWord word "NULL" = false := by
        simpa [sameWord, lower, Says] using hnull
      simp [Level.reader, Clause.operand, hword, ofName?_eq_some.mpr named]
  | integer n => rw [Level.goOn, bind_pure, readAs_leaf rfl]; rfl
  | text s => rw [Level.goOn, bind_pure, readAs_leaf rfl]; rfl
  | @null word said =>
      rw [Level.goOn, bind_pure, readAs_leaf rfl]
      have hword : sameWord word "NULL" = true := by simpa [sameWord, lower, Says] using said
      simp [Level.reader, Clause.operand, hword]

-- What was read is a phrase of the level that ends where the tokens are left, within the limits.
abbrev IsPhrase (level : Level) (room : Nat) (tokens : List Token)
    (parsed : Parsed Token Condition) : Prop :=
  ReadsPhrase (Derives level) Condition.height maxClauseDepth room tokens parsed

section Sound

variable {room : Nat} {tokens rest : List Token} {left parsed : Parsed Token Condition}
variable {reader : Reader Token Condition}

theorem isPhrase_leaf {front : List Token} {e : Condition} (h : Derives .operand front e 0)
    (hheight : e.height = 1) : IsPhrase .operand room (front ++ rest) (.leaf e rest) :=
  ⟨front, 0, rfl, h, Nat.zero_le _, hheight.symm, by simp [Parsed.leaf, maxClauseDepth]⟩

theorem isPhrase_expression
    (hunary : ∀ {tokens parsed}, reader tokens = .ok parsed → IsPhrase .negation room tokens parsed)
    (h : expression reader tokens = .ok parsed) : IsPhrase .disjunction room tokens parsed := by
  refine readsPhrase_chain .conjunction ?_ (fun _ _ => rfl) ?_ h
  · intro front back sign left right n m hsign hfront hback
    obtain ⟨word, rfl, said⟩ := isKeyword_eq_true hsign
    exact .or said hfront hback
  · intro tokens parsed h
    refine readsPhrase_chain .negation ?_ (fun _ _ => rfl) hunary h
    intro front back sign left right n m hsign hfront hback
    obtain ⟨word, rfl, said⟩ := isKeyword_eq_true hsign
    exact .and said hfront hback

theorem wrap_eq_ok {node : Condition → Condition} (h : wrap node left rest = .ok parsed) :
    parsed = ⟨node left.tree, max left.height 0 + 1, rest⟩ ∧
      max left.height 0 + 1 ≤ maxClauseDepth := by
  obtain ⟨height, hdeeper, hnode⟩ := bind_eq_ok h
  obtain ⟨rfl, hle⟩ := deeper_eq_ok hdeeper
  exact ⟨(Except.ok.inj hnode).symm, hle⟩

omit [Patterns] in
theorem stringAfter_eq_ok {text : String} (h : stringAfter tokens = .ok (text, rest)) :
    tokens = .str text :: rest := by
  unfold stringAfter at h
  split at h
  · cases h; rfl
  · cases h

-- An operand with a suffix is a comparison.
theorem isPhrase_suffix {after : List Token} {node : Condition → Condition}
    (hleft : IsPhrase .operand room tokens left) (hrest : left.rest = after ++ rest)
    (hafter : Suffix after node) (h : wrap node left rest = .ok parsed) :
    IsPhrase .comparison room tokens parsed := by
  obtain ⟨front, n, htokens, hfront, hn, hheight, -⟩ := hleft
  obtain ⟨rfl, hle⟩ := wrap_eq_ok h
  refine ⟨front ++ after, n, ?_, .suffix hfront hafter, hn, ?_, hle⟩
  · rw [htokens, hrest, List.append_assoc]
  · rw [hafter.height, hheight]

theorem isPhrase_like {word : String} (said : Says word "LIKE") {pattern : String}
    {escape : Option Char} {more : List Token} (hleft : IsPhrase .operand room tokens left)
    (hrest : left.rest = .word word :: .str pattern :: more)
    (hescape : escapeAfter more = .ok (escape, rest))
    (h : wrap (.like · (LikeToken.ofPattern escape pattern.toList)) left rest = .ok parsed) :
    IsPhrase .comparison room tokens parsed := by
  unfold escapeAfter at hescape
  split at hescape
  · rename_i token more
    split at hescape
    · rename_i hkeyword
      obtain ⟨word', rfl, said'⟩ := isKeyword_eq_true hkeyword
      obtain ⟨⟨mark, rest'⟩, hmark, hsingle⟩ := bind_eq_ok hescape
      obtain rfl := stringAfter_eq_ok hmark
      dsimp only at hsingle
      split at hsingle
      · rename_i c single
        cases hsingle
        exact isPhrase_suffix hleft hrest (.likeEscape said pattern said' single) h
      · cases hsingle
    · cases hescape
      exact isPhrase_suffix hleft hrest (.like said pattern) h
  · cases hescape
    exact isPhrase_suffix hleft hrest (.like said pattern) h

theorem isPhrase_null {word : String} (said : Says word "IS")
    (hleft : IsPhrase .operand room tokens left) (hrest : left.rest = .word word :: rest)
    (h : (match (match rest with
          | token :: rest' => if token.isKeyword "NOT" then (true, rest') else (false, rest)
          | [] => (false, [])) with
        | (negated, rest) =>
            match rest with
            | token :: rest' =>
                if token.isKeyword "NULL" then wrap (.isNull · negated) left rest'
                else .error (unexpected rest)
            | [] => .error .unexpectedEnd) = .ok parsed) :
    IsPhrase .comparison room tokens parsed := by
  cases rest with
  | nil => cases h
  | cons token rest =>
      cases hnot : token.isKeyword "NOT" with
      | false =>
          simp only [hnot, Bool.false_eq_true, if_false] at h
          split at h
          · rename_i hnull
            obtain ⟨null, rfl, saidNull⟩ := isKeyword_eq_true hnull
            exact isPhrase_suffix hleft hrest (.isNull said saidNull) h
          · cases h
      | true =>
          obtain ⟨not, rfl, saidNot⟩ := isKeyword_eq_true hnot
          simp only [hnot, if_true] at h
          split at h
          · split at h
            · rename_i hnull
              obtain ⟨null, rfl, saidNull⟩ := isKeyword_eq_true hnull
              exact isPhrase_suffix hleft hrest (.isNotNull said saidNot saidNull) h
            · cases h
          · cases h

theorem isPhrase_compare {rel : Relation} (hleft : IsPhrase .operand room tokens left)
    (hrest : left.rest = .op rel :: rest) {right : Parsed Token Condition}
    (hright : IsPhrase .operand room rest right) {height : Nat}
    (hdeeper : deeper maxClauseDepth left.height right.height = .ok height) :
    IsPhrase .comparison room tokens ⟨.compare left.tree rel right.tree, height, right.rest⟩ := by
  obtain ⟨front, n, htokens, hfront, hn, hl, -⟩ := hleft
  obtain ⟨back, m, hback, hderives, hm, hr, -⟩ := hright
  obtain ⟨rfl, hle⟩ := deeper_eq_ok hdeeper
  refine ⟨front ++ .op rel :: back, max n m, ?_, .compare rel hfront hderives, by omega, ?_, hle⟩
  · rw [htokens, hrest, hback]
    simp
  · simp [Condition.height, hl, hr]

theorem isPhrase_comparison
    (hoperand : ∀ {tokens parsed}, reader tokens = .ok parsed → IsPhrase .operand room tokens parsed)
    (h : comparison reader tokens = .ok parsed) : IsPhrase .comparison room tokens parsed := by
  obtain ⟨left, hread, hsuffix⟩ := bind_eq_ok h
  have hleft := hoperand hread
  unfold suffix at hsuffix
  split at hsuffix
  · rename_i rel rest hrest
    obtain ⟨right, hright, hnode⟩ := bind_eq_ok hsuffix
    obtain ⟨height, hdeeper, hparsed⟩ := bind_eq_ok hnode
    obtain rfl := Except.ok.inj hparsed
    exact isPhrase_compare hleft hrest (hoperand hright) hdeeper
  · rename_i token rest _ hrest
    split at hsuffix
    · rename_i hkeyword
      obtain ⟨word, rfl, said⟩ := isKeyword_eq_true hkeyword
      exact isPhrase_null said hleft hrest hsuffix
    · split at hsuffix
      · rename_i hkeyword
        obtain ⟨word, rfl, said⟩ := isKeyword_eq_true hkeyword
        obtain ⟨⟨pattern, more⟩, hpattern, hmore⟩ := bind_eq_ok hsuffix
        obtain rfl := stringAfter_eq_ok hpattern
        obtain ⟨⟨escape, rest⟩, hescape, hwrap⟩ := bind_eq_ok hmore
        exact isPhrase_like said hleft hrest hescape hwrap
      · split at hsuffix
        · rename_i hkeyword
          obtain ⟨word, rfl, said⟩ := isKeyword_eq_true hkeyword
          obtain ⟨⟨pattern, more⟩, hpattern, hnode⟩ := bind_eq_ok hsuffix
          obtain rfl := stringAfter_eq_ok hpattern
          dsimp only at hnode
          split at hnode
          · rename_i matcher valid
            exact isPhrase_suffix hleft hrest (.regexp said valid) hnode
          · cases hnode
        · obtain rfl := Except.ok.inj hsuffix
          exact hleft.lift .operand
  · obtain rfl := Except.ok.inj hsuffix
    exact hleft.lift .operand

-- What is read in parentheses has one level less to open.
theorem isPhrase_operand
    (hinner : ∀ {fewer tokens parsed}, fewer < room → unary fewer tokens = .ok parsed →
      IsPhrase .negation fewer tokens parsed)
    (h : operand (opener room) tokens = .ok parsed) : IsPhrase .operand room tokens parsed := by
  unfold operand at h
  split at h
  · rename_i rest
    cases room with
    | zero => cases h
    | succ fewer =>
        obtain ⟨inner, hread, hclose⟩ := bind_eq_ok h
        obtain ⟨front, n, rfl, hfront, hn, hheights⟩ :=
          isPhrase_expression (hinner fewer.lt_succ_self) hread
        split at hclose
        · rename_i rest hrest
          obtain rfl := Except.ok.inj hclose
          refine ⟨_, n + 1, ?_, hfront.parentheses, by omega, hheights⟩
          simp [hrest]
        · cases hclose
  · obtain rfl := Except.ok.inj h
    exact isPhrase_leaf (.integer _) rfl
  · obtain rfl := Except.ok.inj h
    exact isPhrase_leaf (.text _) rfl
  · rename_i word rest
    split at h
    · rename_i hword
      obtain rfl := Except.ok.inj h
      exact isPhrase_leaf (.null (isKeyword_word.mp hword)) rfl
    · split at h
      · rename_i field hfield
        obtain rfl := Except.ok.inj h
        exact isPhrase_leaf (.column (ofName?_eq_some.mp hfield)) rfl
      · cases h
  · cases h

theorem isPhrase_unary (h : unary room tokens = .ok parsed) :
    IsPhrase .negation room tokens parsed := by
  induction room using Nat.strong_induction_on generalizing tokens parsed with
  | _ room ih =>
      cases tokens with
      | nil => cases room <;> cases h
      | cons token tokens =>
          cases hnot : token.isKeyword "NOT" with
          | false =>
              rw [unary_cons hnot] at h
              refine (isPhrase_comparison (fun h => ?_) h).lift .comparison
              exact isPhrase_operand (fun hlt => ih _ hlt) h
          | true =>
              obtain ⟨word, rfl, said⟩ := isKeyword_eq_true hnot
              cases room with
              | zero => simp [unary, hnot] at h
              | succ fewer =>
                  simp only [unary, hnot, if_true] at h
                  obtain ⟨inner, hread, hwrap⟩ := bind_eq_ok h
                  obtain ⟨front, n, rfl, hfront, hn, hheight, -⟩ := ih fewer fewer.lt_succ_self hread
                  obtain ⟨rfl, hle⟩ := wrap_eq_ok hwrap
                  exact ⟨_, n + 1, rfl, hfront.not said, by omega, by simp [Condition.height, hheight],
                    hle⟩

end Sound

-- A phrase that is all there is.
theorem ofTokens_of_derives {tokens : List Token} {e : Condition} {n : Nat}
    (h : Derives .disjunction tokens e n) :
    Condition.ofTokens tokens =
      if n ≤ maxClauseDepth ∧ e.height ≤ maxClauseDepth then .ok e
      else .error (.tooDeep maxClauseDepth) := by
  have hread := @Derives.reader_eq _ _ _ _ _ h maxClauseDepth [] Level.endsBefore_nil
  rw [List.append_nil, Level.goOn, readAs, readWithin_stop (by simp)] at hread
  replace hread : expression (unary maxClauseDepth) tokens =
    readWithin maxClauseDepth Condition.height maxClauseDepth n e [] := hread
  have hne : tokens.isEmpty = false := by simpa using h.begins.1
  simp only [Condition.ofTokens, hne, Bool.false_eq_true, if_false, hread]
  unfold readWithin
  split
  · rfl
  · rfl

theorem ofTokens_eq_ok {tokens : List Token} {e : Condition}
    (h : Condition.ofTokens tokens = .ok e) :
    ∃ n, Derives .disjunction tokens e n ∧ e.height ≤ maxClauseDepth ∧ n ≤ maxClauseDepth := by
  cases tokens with
  | nil => cases h
  | cons token tokens =>
      obtain ⟨parsed, hread, hend⟩ := bind_eq_ok h
      obtain ⟨front, n, htokens, hfront, hn, hheight, hle⟩ := isPhrase_expression isPhrase_unary hread
      split at hend
      · rename_i hrest
        obtain rfl := Except.ok.inj hend
        rw [hrest, List.append_nil] at htokens
        exact ⟨n, htokens ▸ hfront, hheight ▸ hle, hn⟩
      · cases hend

theorem parse_of_scan {text : String} {tokens : List Token}
    (h : Token.scanFrom 0 text.toList = .ok tokens) :
    Condition.parse text = Condition.ofTokens tokens := by
  rw [Condition.parse, h, ok_bind]

-- Text is read as a clause exactly if its tokens are a phrase of the grammar within the limits on
-- the height of the condition and on what is open at once, and then as the only condition of the
-- phrase.
theorem parse_ok_iff_phrase :
    (∀ (text : String) (e : Condition), Condition.parse text = .ok e ↔
      ∃ tokens opened, Token.scanFrom 0 text.toList = .ok tokens ∧ tokens ≠ [] ∧
        Derives .disjunction tokens e opened ∧ e.height ≤ maxClauseDepth ∧
          opened ≤ maxClauseDepth) ∧
    ∀ (text : String) (e e' : Condition) (tokens : List Token) (opened : Nat),
      Condition.parse text = .ok e → Token.scanFrom 0 text.toList = .ok tokens →
        Derives .disjunction tokens e' opened → e' = e := by
  refine ⟨fun text e => ⟨fun h => ?_, ?_⟩, fun text e e' tokens opened h htokens hderives => ?_⟩
  · obtain ⟨tokens, htokens, h⟩ := bind_eq_ok h
    obtain ⟨opened, hderives, hheight, hopened⟩ := ofTokens_eq_ok h
    exact ⟨tokens, opened, htokens, hderives.begins.1, hderives, hheight, hopened⟩
  · rintro ⟨tokens, opened, htokens, -, hderives, hheight, hopened⟩
    rw [parse_of_scan htokens, ofTokens_of_derives hderives, if_pos ⟨hopened, hheight⟩]
  · rw [parse_of_scan htokens, ofTokens_of_derives hderives] at h
    split at h
    · exact Except.ok.inj h
    · cases h

end

-- A negation binds tighter than `AND`, which binds tighter than `OR`. The same word ends a test in
-- one place and is an operand in another.
theorem parse_ok_iff_phrase_mixedCase :
    Condition.parse "Not lang is NOT null aNd author LIKE 'a!%' escape '!' or NULL" =
        .ok (.or (.and (.not (.isNull (.column .lang) true))
          (.like (.column .author) [.literal 'a', .literal '%'])) .null) ∧
      ∀ (e : Condition) (opened : Nat),
        Derives .disjunction [.word "Not", .word "lang", .word "is", .word "NOT", .word "null",
            .word "aNd", .word "author", .word "LIKE", .str "a!%", .word "escape", .str "!",
            .word "or", .word "NULL"] e opened →
          e = .or (.and (.not (.isNull (.column .lang) true))
            (.like (.column .author) [.literal 'a', .literal '%'])) .null := by
  have hscan : Token.scanFrom 0
      "Not lang is NOT null aNd author LIKE 'a!%' escape '!' or NULL".toList =
        .ok [.word "Not", .word "lang", .word "is", .word "NOT", .word "null", .word "aNd",
          .word "author", .word "LIKE", .str "a!%", .word "escape", .str "!", .word "or",
          .word "NULL"] := by
    cbv
  have hlang : Derives .comparison [.word "lang", .word "is", .word "NOT", .word "null"]
      (.isNull (.column .lang) true) 0 :=
    .suffix (.column (by decide)) (.isNotNull (by decide) (by decide) (by decide))
  have hlike : Suffix [.word "LIKE", .str "a!%", .word "escape", .str "!"]
      (.like · (LikeToken.ofPattern (some '!') "a!%".toList)) :=
    .likeEscape (by decide) "a!%" (by decide) (by decide)
  have hauthor : Derives .comparison
      [.word "author", .word "LIKE", .str "a!%", .word "escape", .str "!"]
      (.like (.column .author) (LikeToken.ofPattern (some '!') "a!%".toList)) 0 :=
    .suffix (.column (by decide)) hlike
  rw [show LikeToken.ofPattern (some '!') "a!%".toList = [.literal 'a', .literal '%'] by decide]
    at hauthor
  have hboth : Derives .conjunction _ _ _ :=
    .and (by decide : Says "aNd" "AND")
      (.negation (.not (by decide : Says "Not" "NOT") (.comparison hlang))) (.comparison hauthor)
  have hnull : Derives .conjunction [.word "NULL"] .null 0 :=
    .negation (.comparison (.operand (.null (by decide))))
  have hphrase := Derives.or (by decide : Says "or" "OR") (.conjunction hboth) hnull
  have hparse := (parse_ok_iff_phrase.1 _ _).mpr
    ⟨_, _, hscan, by decide, hphrase, by decide, by decide⟩
  exact ⟨hparse, fun e opened h => parse_ok_iff_phrase.2 _ _ _ _ _ hparse hscan h⟩

end FilteredFeed.Clause
