import FilteredFeed.Filter.Parser
import FilteredFeed.Proofs.Grammar.Phrase
import Mathlib

namespace FilteredFeed.Filter

open FilteredFeed.Feed FilteredFeed.Grammar FilteredFeed.Text

-- The levels of the grammar, the loosest first.
inductive Level where
  | disjunction
  | conjunction
  | operand
deriving DecidableEq, Repr

-- A word names a field in any case of its letters.
def Names (word : String) (field : Field) : Prop :=
  word.toList.map Char.toLower = field.name.toList

instance (word : String) (field : Field) : Decidable (Names word field) :=
  inferInstanceAs (Decidable (_ = _))

theorem names_name (field : Field) : Names field.name field := by
  cases field <;> decide

-- The tokens that stand for a constant.
inductive IsConstant : Token → Value → Prop
  | str (s : String) : IsConstant (.str s) (.text s)
  | int (n : Int64) : IsConstant (.int n) (.integer n)
  | bool (b : Bool) : IsConstant (.bool b) (.bool b)
  | null : IsConstant .null .null

-- The grammar of filters: the tokens, as a phrase of the level, stand for the tree, and at most so
-- many negations and parentheses are open at once. A negation is open up to the end of its operand.
inductive Derives : Level → List Token → Expr → Nat → Prop
  | or {tokens tokens' : List Token} {left right : Expr} {n m : Nat}
      (first : Derives .disjunction tokens left n) (last : Derives .conjunction tokens' right m) :
      Derives .disjunction (tokens ++ .or :: tokens') (.or left right) (max n m)
  | conjunction {tokens : List Token} {e : Expr} {n : Nat} (only : Derives .conjunction tokens e n) :
      Derives .disjunction tokens e n
  | and {tokens tokens' : List Token} {left right : Expr} {n m : Nat}
      (first : Derives .conjunction tokens left n) (last : Derives .operand tokens' right m) :
      Derives .conjunction (tokens ++ .and :: tokens') (.and left right) (max n m)
  | operand {tokens : List Token} {e : Expr} {n : Nat} (only : Derives .operand tokens e n) :
      Derives .conjunction tokens e n
  | not {tokens : List Token} {e : Expr} {n : Nat} (inner : Derives .operand tokens e n) :
      Derives .operand (.not :: tokens) (.not e) (n + 1)
  | parentheses {tokens : List Token} {e : Expr} {n : Nat} (inner : Derives .disjunction tokens e n) :
      Derives .operand (.openParen :: tokens ++ [.closeParen]) e (n + 1)
  | literal (b : Bool) : Derives .operand [.bool b] (.literal b) 0
  | field {word : String} {field : Field} (named : Names word field) :
      Derives .operand [.ident word] (.compare field (.relation .eq) (.bool true)) 0
  | compare {word : String} {field : Field} {token : Token} {value : Value} (op : CompareOp)
      (named : Names word field) (constant : IsConstant token value) :
      Derives .operand [.ident word, .compare op, token] (.compare field op value) 0

theorem Expr.height_pos (e : Expr) : 0 < e.height := by
  cases e <;> simp [Expr.height]

theorem ofName?_eq_some {word : String} {field : Field} :
    Field.ofName? word = some field ↔ Names word field := by
  simp only [Field.ofName?, Field.all, sameWord, lower, Names]
  constructor
  · intro h
    have hfound := List.find?_some h
    exact (beq_iff_eq.mp hfound).trans (names_name field)
  · intro h
    rw [h]
    cases field <;> decide

theorem fieldNamed_eq_ok {word : String} {field : Field} :
    fieldNamed word = .ok field ↔ Names word field := by
  rw [← ofName?_eq_some, fieldNamed]
  cases Field.ofName? word <;> simp

theorem valueOf_eq_ok {token : Token} {value : Value} :
    valueOf token = .ok value ↔ IsConstant token value := by
  constructor
  · intro h
    cases token <;> cases h <;> constructor
  · rintro (_ | _ | _ | _) <;> rfl

namespace Level

-- What reads a phrase of a level, where so many negations and parentheses may still be opened.
def reader (room : Nat) : Level → Reader Token Expr
  | .disjunction => expression (unary room)
  | .conjunction => Reader.chain (unary room) andOperator maxDepth
  | .operand => unary room

-- How the reader of a level goes on from a phrase of that level.
def goOn (room : Nat) : Level → Parsed Token Expr → Except ReadError (Parsed Token Expr)
  | .disjunction => (Level.conjunction.reader room).extend orOperator maxDepth maxDepth
  | .conjunction => (Level.operand.reader room).extend andOperator maxDepth maxDepth
  | .operand => pure

-- The tokens that are not more of what a phrase of the level ends with.
def stopsAt : Level → Token → Bool
  | _, .compare _ => false
  | .disjunction, .and => false
  | _, _ => true

def EndsBefore (level : Level) (rest : List Token) : Prop :=
  ∀ token ∈ rest.head?, level.stopsAt token = true

section EndsBefore

variable {rest : List Token}

theorem EndsBefore.operand {level : Level} (h : level.EndsBefore rest) :
    Level.operand.EndsBefore rest := by
  intro token ht
  have := h token ht
  cases token <;> cases level <;> simp_all [stopsAt]

theorem EndsBefore.conjunction (h : Level.disjunction.EndsBefore rest) :
    Level.conjunction.EndsBefore rest := by
  intro token ht
  have := h token ht
  cases token <;> simp_all [stopsAt]

theorem EndsBefore.not_and (h : Level.disjunction.EndsBefore rest) :
    ∀ token ∈ rest.head?, andOperator.isSign token = false := by
  intro token ht
  have := h token ht
  cases token <;> simp_all [stopsAt, andOperator]

end EndsBefore

end Level

-- What a phrase is read to within the limits.
def readAs (room n : Nat) (e : Expr) (rest : List Token) : Except ReadError (Parsed Token Expr) :=
  readWithin maxDepth Expr.height room n e rest

-- What is read in parentheses, past the one that closes them.
def closeAfter (inner : Parsed Token Expr) : Except ReadError (Parsed Token Expr) :=
  match inner.rest with
  | .closeParen :: rest => return { inner with rest }
  | _ => throw .unclosedParenthesis

theorem closeAfter_eq_ok {inner parsed : Parsed Token Expr} (h : closeAfter inner = .ok parsed) :
    ∃ rest, inner.rest = .closeParen :: rest ∧ parsed = { inner with rest } := by
  unfold closeAfter at h
  split at h
  · rename_i rest hrest
    exact ⟨rest, hrest, (Except.ok.inj h).symm⟩
  · cases h

section Complete

variable {room n : Nat} {e : Expr} {rest : List Token}

theorem readAs_not : (readAs room n e rest >>= negated) = readAs (room + 1) (n + 1) (.not e) rest := by
  have hheight : (Expr.not e).height = max e.height 0 + 1 := by simp [Expr.height]
  refine readWithin_bind (fun h => ⟨by omega, by omega⟩) fun hn _ => ?_
  exact deeper_node (Nat.succ_le_succ hn) hheight

theorem readAs_parentheses :
    (readAs room n e (.closeParen :: rest) >>= closeAfter) = readAs (room + 1) (n + 1) e rest :=
  readWithin_bind (fun h => ⟨by omega, h.2⟩) fun hn hh =>
    (readWithin_eq (Nat.succ_le_succ hn) hh).symm

theorem readAs_leaf (hheight : e.height = 1) : readAs room 0 e rest = .ok (.leaf e rest) := by
  rw [readAs, readWithin_eq (Nat.zero_le _) (by rw [hheight]; decide), hheight]
  rfl

theorem comparison_field {word : String} {field : Field} (named : Names word field)
    (hrest : Level.operand.EndsBefore rest) :
    comparison word rest = .ok (.leaf (.compare field (.relation .eq) (.bool true)) rest) := by
  rw [comparison, fieldNamed_eq_ok.mpr named, ok_bind]
  split
  · exact absurd (hrest _ rfl) (by simp [Level.stopsAt])
  · exact absurd (hrest _ rfl) (by simp [Level.stopsAt])
  · rfl

theorem comparison_compare {word : String} {field : Field} {token : Token} {value : Value}
    (op : CompareOp) (named : Names word field) (constant : IsConstant token value) :
    comparison word (.compare op :: token :: rest) = .ok (.leaf (.compare field op value) rest) := by
  rw [comparison, fieldNamed_eq_ok.mpr named, ok_bind]
  simp only [valueOf_eq_ok.mpr constant, ok_bind]
  rfl

end Complete

-- A phrase of the grammar is read as its tree, or is too deep. The induction is on the derivation:
-- a chain read so far is itself a phrase of its level, and the reader goes on from there.
theorem Derives.reader_eq {level : Level} {tokens : List Token} {e : Expr} {n : Nat}
    (h : Derives level tokens e n) {room : Nat} {rest : List Token} (hrest : level.EndsBefore rest) :
    level.reader room (tokens ++ rest) = readAs room n e rest >>= level.goOn room := by
  induction h generalizing room rest with
  | @or tokens tokens' left right n m first last ihfirst ihlast =>
      have hfirst := @ihfirst room (.or :: (tokens' ++ rest)) (by simp [Level.EndsBefore, Level.stopsAt])
      have hlast := @ihlast room rest hrest.conjunction
      rw [Level.goOn, readAs, readWithin_stop hrest.not_and] at hlast
      rw [List.append_assoc, List.cons_append, hfirst]
      exact readWithin_join left.height_pos (by decide) rfl hlast
  | conjunction only ih =>
      have honly := @ih room rest hrest.conjunction
      rw [Level.goOn, readAs, readWithin_stop hrest.not_and] at honly
      exact congrArg (· >>= Level.disjunction.goOn room) honly
  | @and tokens tokens' left right n m first last ihfirst ihlast =>
      have hfirst := @ihfirst room (.and :: (tokens' ++ rest)) (by simp [Level.EndsBefore, Level.stopsAt])
      have hlast := @ihlast room rest hrest.operand
      rw [Level.goOn, bind_pure] at hlast
      rw [List.append_assoc, List.cons_append, hfirst]
      exact readWithin_join left.height_pos (by decide) rfl hlast
  | operand only ih =>
      have honly := @ih room rest hrest.operand
      rw [Level.goOn, bind_pure] at honly
      exact congrArg (· >>= Level.conjunction.goOn room) honly
  | @not tokens e n inner ih =>
      rw [Level.goOn, bind_pure, List.cons_append]
      cases room with
      | zero => rw [readAs, readWithin_of_not (by omega)]; rfl
      | succ room =>
          have hinner := @ih room rest hrest
          rw [Level.goOn, bind_pure] at hinner
          rw [← readAs_not, ← hinner]
          rfl
  | @parentheses tokens e n inner ih =>
      rw [Level.goOn, bind_pure, List.append_assoc, List.cons_append, List.singleton_append]
      cases room with
      | zero => rw [readAs, readWithin_of_not (by omega)]; rfl
      | succ room =>
          have hinner := @ih room (.closeParen :: rest) (by simp [Level.EndsBefore, Level.stopsAt])
          rw [Level.goOn, readAs, readWithin_stop (by simp [orOperator])] at hinner
          rw [← readAs_parentheses, readAs, ← hinner]
          rfl
  | literal b =>
      rw [Level.goOn, bind_pure, readAs_leaf rfl]
      change unary room (.bool b :: rest) = _
      rw [unary]
  | @field word field named =>
      rw [Level.goOn, bind_pure, readAs_leaf rfl]
      change unary room (.ident word :: rest) = _
      rw [unary]
      exact comparison_field named hrest
  | @compare word field token value op named constant =>
      rw [Level.goOn, bind_pure, readAs_leaf rfl]
      change unary room (.ident word :: .compare op :: token :: rest) = _
      rw [unary]
      exact comparison_compare op named constant

-- What was read is a phrase of the level that ends where the tokens are left, within the limits.
abbrev IsPhrase (level : Level) (room : Nat) (tokens : List Token)
    (parsed : Parsed Token Expr) : Prop :=
  ReadsPhrase (Derives level) Expr.height maxDepth room tokens parsed

section Sound

variable {room : Nat} {tokens : List Token} {parsed : Parsed Token Expr}

theorem isPhrase_leaf {front rest : List Token} {e : Expr} (h : Derives .operand front e 0)
    (hheight : e.height = 1) : IsPhrase .operand room (front ++ rest) (.leaf e rest) :=
  ⟨front, 0, rfl, h, Nat.zero_le _, hheight.symm, by simp [Parsed.leaf, maxDepth]⟩

theorem isPhrase_expression {operand : Reader Token Expr}
    (hoperand : ∀ {tokens parsed}, operand tokens = .ok parsed → IsPhrase .operand room tokens parsed)
    (h : expression operand tokens = .ok parsed) : IsPhrase .disjunction room tokens parsed := by
  refine readsPhrase_chain .conjunction ?_ (fun _ _ => rfl) ?_ h
  · intro front back sign left right n m hsign hfront hback
    obtain rfl : sign = .or := by simpa [orOperator] using hsign
    exact hfront.or hback
  · intro tokens parsed h
    refine readsPhrase_chain .operand ?_ (fun _ _ => rfl) hoperand h
    intro front back sign left right n m hsign hfront hback
    obtain rfl : sign = .and := by simpa [andOperator] using hsign
    exact hfront.and hback

theorem isPhrase_comparison {word : String} {rest : List Token}
    (h : comparison word rest = .ok parsed) :
    IsPhrase .operand room (.ident word :: rest) parsed := by
  obtain ⟨field, hfield, h⟩ := bind_eq_ok h
  have named := fieldNamed_eq_ok.mp hfield
  split at h
  · obtain ⟨value, hvalue, h⟩ := bind_eq_ok h
    obtain rfl := Except.ok.inj h
    exact isPhrase_leaf (.compare _ named (valueOf_eq_ok.mp hvalue)) rfl
  · cases h
  · obtain rfl := Except.ok.inj h
    exact isPhrase_leaf (.field named) rfl

-- What may still be opened goes down by one at each negation and parenthesis.
theorem isPhrase_unary (h : unary room tokens = .ok parsed) :
    IsPhrase .operand room tokens parsed := by
  induction room using Nat.strong_induction_on generalizing tokens parsed with
  | _ room ih =>
      revert h
      fun_cases unary room tokens with
      | case2 rest room =>
          intro h
          obtain ⟨inner, hinner, hnegated⟩ := bind_eq_ok h
          obtain ⟨front, n, rfl, hfront, hn, hheight, -⟩ := ih room room.lt_succ_self hinner
          obtain ⟨height, hdeeper, hnode⟩ := bind_eq_ok hnegated
          obtain ⟨rfl, hle⟩ := deeper_eq_ok hdeeper
          obtain rfl := Except.ok.inj hnode
          exact ⟨_, n + 1, rfl, hfront.not, by omega, by simp [Expr.height, hheight], hle⟩
      | case4 rest room =>
          intro h
          obtain ⟨inner, hinner, hclose⟩ := bind_eq_ok h
          obtain ⟨front, n, rfl, hfront, hn, hheights⟩ :=
            isPhrase_expression (ih room room.lt_succ_self) hinner
          obtain ⟨rest, hrest, rfl⟩ := closeAfter_eq_ok hclose
          refine ⟨_, n + 1, ?_, hfront.parentheses, by omega, hheights⟩
          simp [hrest]
      | case5 _ b rest =>
          intro h
          obtain rfl := Except.ok.inj h
          exact isPhrase_leaf (.literal _) rfl
      | case6 _ word rest =>
          intro h
          exact isPhrase_comparison h
      | case1 | case3 | case7 | case8 =>
          -- no room, or no token that an operand begins with
          intro h
          cases h

end Sound

theorem Derives.ne_nil {level : Level} {tokens : List Token} {e : Expr} {n : Nat}
    (h : Derives level tokens e n) : tokens ≠ [] := by
  induction h <;> simp_all

-- A phrase that is all there is.
theorem ofTokens_of_derives {tokens : List Token} {e : Expr} {n : Nat}
    (h : Derives .disjunction tokens e n) :
    Expr.ofTokens tokens =
      if n ≤ maxDepth ∧ e.height ≤ maxDepth then .ok e else .error (.tooDeep maxDepth) := by
  have hread := @Derives.reader_eq _ _ _ _ h maxDepth [] (by simp [Level.EndsBefore])
  rw [List.append_nil, Level.goOn, readAs, readWithin_stop (by simp)] at hread
  replace hread : expression (unary maxDepth) tokens = readAs maxDepth n e [] := hread
  rw [Expr.ofTokens, hread]
  unfold readAs readWithin
  split
  · rfl
  · rfl

theorem ofTokens_eq_ok {tokens : List Token} {e : Expr} (h : Expr.ofTokens tokens = .ok e) :
    ∃ n, Derives .disjunction tokens e n ∧ e.height ≤ maxDepth ∧ n ≤ maxDepth := by
  obtain ⟨parsed, hread, hend⟩ := bind_eq_ok h
  obtain ⟨front, n, rfl, hfront, hn, hheight, hle⟩ := isPhrase_expression isPhrase_unary hread
  split at hend
  · rename_i hrest
    obtain rfl := Except.ok.inj hend
    rw [hrest, List.append_nil]
    exact ⟨n, hfront, hheight ▸ hle, hn⟩
  · cases hend

-- The tokens of a text without the blanks around it.
def lex (text : String) : Except ReadError (List Token) :=
  (Token.scanFrom 0 (trim text.toList)).map (List.map PositionedToken.token)

theorem parse_of_lex {text : String} {tokens : List Token} (h : lex text = .ok tokens)
    (hne : tokens ≠ []) : Expr.parse text = Expr.ofTokens tokens := by
  unfold lex at h
  unfold Expr.parse
  split
  · rename_i hempty
    rw [hempty, Token.scanFrom_nil] at h
    exact absurd (Except.ok.inj h).symm hne
  · cases hscan : Token.scanFrom 0 (trim text.toList) with
    | error cause => rw [hscan] at h; cases h
    | ok found =>
        rw [hscan] at h
        obtain rfl := Except.ok.inj h
        rfl

theorem lex_of_parse {text : String} {e : Expr} (h : Expr.parse text = .ok e) :
    ∃ tokens, lex text = .ok tokens ∧ Expr.ofTokens tokens = .ok e := by
  unfold Expr.parse at h
  split at h
  · cases h
  · obtain ⟨found, hscan, h⟩ := bind_eq_ok h
    exact ⟨_, by rw [lex, hscan]; rfl, h⟩

-- Text is read as a filter exactly if its tokens are a phrase of the grammar within the limits on
-- the height of the tree and on what is open at once, and then as the only tree of the phrase.
theorem parse_ok_iff_derives :
    (∀ (text : String) (e : Expr), Expr.parse text = .ok e ↔
      ∃ tokens opened, lex text = .ok tokens ∧ tokens ≠ [] ∧ Derives .disjunction tokens e opened ∧
        e.height ≤ maxDepth ∧ opened ≤ maxDepth) ∧
    ∀ (text : String) (e e' : Expr) (tokens : List Token) (opened : Nat), Expr.parse text = .ok e →
      lex text = .ok tokens → Derives .disjunction tokens e' opened → e' = e := by
  refine ⟨fun text e => ⟨fun h => ?_, ?_⟩, fun text e e' tokens opened h htokens hderives => ?_⟩
  · obtain ⟨tokens, htokens, h⟩ := lex_of_parse h
    obtain ⟨opened, hderives, hheight, hopened⟩ := ofTokens_eq_ok h
    exact ⟨tokens, opened, htokens, hderives.ne_nil, hderives, hheight, hopened⟩
  · rintro ⟨tokens, opened, htokens, hne, hderives, hheight, hopened⟩
    rw [parse_of_lex htokens hne, ofTokens_of_derives hderives, if_pos ⟨hopened, hheight⟩]
  · rw [parse_of_lex htokens hderives.ne_nil, ofTokens_of_derives hderives] at h
    split at h
    · exact Except.ok.inj h
    · cases h

-- A negation binds tighter than `and`, in any spelling and whatever the case of the field.
theorem parse_ok_iff_derives_spellings :
    Expr.parse " !Has_Media AND true " =
        .ok (.and (.not (.compare .hasMedia (.relation .eq) (.bool true))) (.literal true)) ∧
      ∀ (e : Expr) (opened : Nat),
        Derives .disjunction [.not, .ident "Has_Media", .and, .bool true] e opened →
          e = .and (.not (.compare .hasMedia (.relation .eq) (.bool true))) (.literal true) := by
  have hlex : lex " !Has_Media AND true " = .ok [.not, .ident "Has_Media", .and, .bool true] := by
    cbv
  have hnot : Derives .operand [.not, .ident "Has_Media"]
      (.not (.compare .hasMedia (.relation .eq) (.bool true))) 1 := .not (.field (by decide))
  have hand := (Derives.and hnot.operand (.literal true)).conjunction
  have hparse := (parse_ok_iff_derives.1 " !Has_Media AND true " _).mpr
    ⟨_, _, hlex, hand.ne_nil, hand, by decide, by decide⟩
  exact ⟨hparse, fun e opened h => parse_ok_iff_derives.2 _ _ _ _ _ hparse hlex h⟩

end FilteredFeed.Filter
