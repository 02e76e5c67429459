import FilteredFeed.Proofs.Clause.Like
import FilteredFeed.Proofs.Clause.Written

namespace FilteredFeed.Filter

open FilteredFeed.Clause FilteredFeed.Feed FilteredFeed.Text

variable [Patterns]

-- The node of a clause that a well-typed comparison with a constant stands for.
def columnCondition (field : Field) (op : CompareOp) (value : Value) : Option Condition :=
  let column := Condition.column field
  match field.kind, value, op with
  | .bool, .bool b, .relation .eq => some (.compare column .eq (.integer (if b then 1 else 0)))
  | .bool, .bool b, .relation .ne => some (.compare column .ne (.integer (if b then 1 else 0)))
  | .integer, .integer n, .relation rel => some (.compare column rel (.integer n))
  | .text, .text s, .relation rel => some (.compare column rel (.text s))
  | .text, .text s, .contains =>
      some (.like column (.anySequence :: (s.toList.map .literal ++ [.anySequence])))
  | .text, .text s, .startsWith => some (.like column (s.toList.map .literal ++ [.anySequence]))
  | .text, .text s, .endsWith => some (.like column (.anySequence :: s.toList.map .literal))
  | .text, .text s, .matchesPattern =>
      match Patterns.compile s with
      | .ok matcher => some (.regexp column matcher)
      | .error _ => none
  | _, _, _ => none

-- A comparison as a clause. Only a column that may be absent is compared with null, and only for
-- its absence; with a constant it is compared where it is there.
def comparisonCondition (field : Field) (op : CompareOp) (value : Value) : Option Condition :=
  let column := Condition.column field
  match value, op with
  | .null, .relation .eq => if field.isNullable then some (.isNull column false) else none
  | .null, .relation .ne => if field.isNullable then some (.isNull column true) else none
  | .null, _ => none
  | value, op =>
      (columnCondition field op value).map fun condition =>
        if field.isNullable then .and (.isNull column true) condition else condition

def always : Condition := .compare (.integer 1) .eq (.integer 1)

def never : Condition := .compare (.integer 0) .eq (.integer 1)

-- The clause of an expression, node by node. What is ill-typed or too deep is never true.
def Expr.condition : Nat → Expr → Condition
  | 0, _ => never
  | levels + 1, e =>
      match e with
      | .literal true => always
      | .literal false => never
      | .contradiction => never
      | .compare field op value => (comparisonCondition field op value).getD never
      | .and left right => .and (left.condition levels) (right.condition levels)
      | .or left right => .or (left.condition levels) (right.condition levels)
      | .not inner => .not (inner.condition levels)

section Written

variable {rest : List Char}

omit [Patterns] in
theorem isName_column (field : Field) : Token.IsName field.name.toList = true := by
  cases field <;> decide

omit [Patterns] in
theorem scan?_column (field : Field) (rest : List Char) :
    Token.scan? (field.name.toList ++ ' ' :: rest) =
      (Token.scan? rest).map (.word field.name :: ·) := by
  rw [scan?_keyword (isName_column field), String.ofList_toList]

-- A leaf with the text it is written as.
def WrittenLeaf (text : List Char) (condition : Condition) : Prop :=
  ∃ token, IsLeaf token condition ∧
    ∀ rest, Token.Ends rest → Token.scan? (text ++ rest) = (Token.scan? rest).map (token :: ·)

theorem writtenLeaf_column (field : Field) : WrittenLeaf field.name.toList (.column field) := by
  refine ⟨_, isLeaf_column field, fun rest hrest => ?_⟩
  rw [Token.scan?_word (isName_column field) hrest, String.ofList_toList]

theorem writtenLeaf_integer (n : Int64) : WrittenLeaf (Decimal.ofInt64 n) (.integer n) :=
  ⟨_, isLeaf_integer n, fun _ => Token.scan?_integer n⟩

theorem writtenLeaf_text (s : String) : WrittenLeaf (ClauseText.quote s.toList) (.text s) := by
  refine ⟨_, isLeaf_text s, fun rest hrest => ?_⟩
  rw [Token.scan?_quote s.toList hrest, String.ofList_toList]

theorem written_compare {text text' : List Char} {left right : Condition}
    (hl : WrittenLeaf text left) (rel : Relation) (hr : WrittenLeaf text' right) :
    Written 0 (text ++ ' ' :: ClauseText.relation rel ++ ' ' :: text') (.compare left rel right) := by
  obtain ⟨token, hleaf, hscan⟩ := hl
  obtain ⟨token', hleaf', hscan'⟩ := hr
  refine ⟨_, hleaf.compare hleaf' rel, fun rest hrest => ?_⟩
  simp [hscan, Token.scan?_relation, hscan' rest hrest, Function.comp_def]

theorem written_like (field : Field) (pattern : List Char) :
    Written 0 (ClauseText.like field.name.toList pattern)
      (.like (.column field) (LikeToken.ofPattern (some ClauseText.likeEscape) pattern)) := by
  have hread := (isLeaf_column field).like (.ofList pattern) ClauseText.likeEscape
  rw [String.toList_ofList] at hread
  refine ⟨_, hread, fun rest hrest => ?_⟩
  have hlike := @scan?_keyword "LIKE".toList (by decide)
  have hescape := @scan?_keyword "ESCAPE".toList (by decide)
  simp at hlike hescape
  simp [ClauseText.like, scan?_column, hlike, hescape, Token.scan?_quote pattern,
    Token.scan?_quote _ hrest, Function.comp_def]

theorem written_regexp (field : Field) (s : String) {matcher : Patterns.Matcher}
    (hp : Patterns.compile s = .ok matcher) :
    Written 0 (field.name.toList ++ " REGEXP ".toList ++ ClauseText.quote s.toList)
      (.regexp (.column field) matcher) := by
  refine ⟨_, (isLeaf_column field).regexp hp, fun rest hrest => ?_⟩
  have hregexp := @scan?_keyword "REGEXP".toList (by decide)
  simp at hregexp
  simp [scan?_column, hregexp, Token.scan?_quote _ hrest, Function.comp_def]

-- Absence is asked in parentheses, or before a condition on the column.
theorem written_isNull (field : Field) :
    Written 1 ('(' :: field.name.toList ++ " IS NULL)".toList) (.isNull (.column field) false) := by
  refine ⟨_, (isLeaf_column field).isNull.whole.parentheses, fun rest _ => ?_⟩
  have his := @scan?_keyword "IS".toList (by decide)
  have hnull := @Token.scan?_word (')' :: rest) "NULL".toList (by decide) (by simp)
  simp at his hnull
  simp [scan?_column, his, hnull, Function.comp_def]

theorem written_isNotNull (field : Field) :
    Written 0 (field.name.toList ++ " IS NOT NULL".toList) (.isNull (.column field) true) := by
  refine ⟨_, (isLeaf_column field).isNotNull, fun rest hrest => ?_⟩
  have his := @scan?_keyword "IS".toList (by decide)
  have hnot := @scan?_keyword "NOT".toList (by decide)
  have hnull := @Token.scan?_word rest "NULL".toList (by decide) hrest
  simp at his hnot hnull
  simp [scan?_column, his, hnot, hnull, Function.comp_def]

theorem written_guarded {field : Field} {text : List Char} {condition : Condition}
    (h : Written 0 text condition) (hheight : condition.height = 2) :
    Written 1 (ClauseText.guarded field text)
      (if field.isNullable then .and (.isNull (.column field) true) condition else condition) := by
  unfold ClauseText.guarded
  split
  · have hand := (written_isNotNull field).and h (by simp [Condition.height, hheight, maxClauseDepth])
    simpa using hand
  · exact h.parentheses

theorem written_always : Written 1 ClauseText.tautology always :=
  (written_compare (writtenLeaf_integer 1) .eq (writtenLeaf_integer 1)).parentheses

theorem written_never : Written 1 ClauseText.contradiction never :=
  (written_compare (writtenLeaf_integer 0) .eq (writtenLeaf_integer 1)).parentheses

end Written

-- Escaped text stands for its own characters.
omit [Patterns] in
theorem ofPattern_cons {c : Char} {rest : List Char} (h : ¬(c = '%' ∨ c = '_' ∨ c = '\\')) :
    LikeToken.ofPattern (some '\\') (c :: rest) =
      .literal c :: LikeToken.ofPattern (some '\\') rest := by
  obtain ⟨hany, hone, hescape⟩ : c ≠ '%' ∧ c ≠ '_' ∧ c ≠ '\\' := by simpa [not_or] using h
  cases rest <;> simp [LikeToken.ofPattern, hany, hone, hescape]

omit [Patterns] in
theorem ofPattern_escapeLike (text rest : List Char) :
    LikeToken.ofPattern (some ClauseText.likeEscape) (ClauseText.escapeLike text ++ rest) =
      text.map .literal ++ LikeToken.ofPattern (some ClauseText.likeEscape) rest := by
  induction text with
  | nil => rfl
  | cons c text ih =>
      simp only [ClauseText.escapeLike, ClauseText.likeEscape, List.flatMap_cons, List.append_assoc] at ih ⊢
      by_cases hc : c = '%' ∨ c = '_' ∨ c = '\\'
      · simp [hc, LikeToken.ofPattern, ih]
      · simp [hc, ofPattern_cons hc, ih]

-- How the test of a well-typed comparison and the condition written for it belong together.
structure Agrees (field : Field) (test : Test) (text : List Char) (condition : Condition) : Prop where
  written : Written 0 text condition
  height : condition.height = 2
  rejects_null : test.accepts .null = false
  eval : ∀ item : Item, item.value field ≠ .null →
    condition.eval item = .ofBool (some (test.accepts (item.value field)))

-- A column holds values of its kind, and null only where it may be absent.
omit [Patterns] in
theorem value_of_kind (item : Item) (field : Field) :
    (item.value field = .null ∧ field.isNullable = true) ∨
      match field.kind with
      | .bool => ∃ b, item.value field = .bool b
      | .integer => ∃ n, item.value field = .integer n
      | .text => ∃ s, item.value field = .text s := by
  cases field with
  | inReplyTo => cases h : item.inReplyTo <;> simp [Item.value, Field.kind, Field.isNullable, h]
  | lang => cases h : item.lang <;> simp [Item.value, Field.kind, Field.isNullable, h]
  | _ => simp [Item.value, Field.kind]

section Agrees

variable {field : Field}

theorem agrees_bool (hk : field.kind = .bool) (expected equal : Bool) :
    Agrees field (.bool expected equal)
      (field.name.toList ++ (if equal then " = " else " <> ").toList ++ (if expected then ['1'] else ['0']))
      (.compare (.column field) (if equal then .eq else .ne) (.integer (if expected then 1 else 0))) where
  written := by
    have h := written_compare (writtenLeaf_column field) (if equal then .eq else .ne)
      (writtenLeaf_integer (if expected then 1 else 0))
    have h0 : Decimal.ofInt64 0 = ['0'] := by decide
    have h1 : Decimal.ofInt64 1 = ['1'] := by decide
    cases expected <;> cases equal <;> simpa [ClauseText.relation, h0, h1] using h
  height := rfl
  rejects_null := rfl
  eval item hnull := by
    have hv := value_of_kind item field
    simp only [hk, hnull, false_and, false_or] at hv
    obtain ⟨b, hb⟩ := hv
    simp only [Condition.eval, hb]
    cases expected <;> cases equal <;> cases b <;> rfl

theorem agrees_integer (hk : field.kind = .integer) (rel : Relation) (n : Int64) :
    Agrees field (.integer rel n)
      (field.name.toList ++ ' ' :: ClauseText.relation rel ++ ' ' :: Decimal.ofInt64 n)
      (.compare (.column field) rel (.integer n)) where
  written := written_compare (writtenLeaf_column field) rel (writtenLeaf_integer n)
  height := rfl
  rejects_null := rfl
  eval item hnull := by
    have hv := value_of_kind item field
    simp only [hk, hnull, false_and, false_or] at hv
    obtain ⟨m, hm⟩ := hv
    simp only [Condition.eval, hm]
    rfl

-- What is asked of a text is asked of it alone.
theorem agrees_of_text (hk : field.kind = .text) {test : Test} {text : List Char}
    {condition : Condition} (hw : Written 0 text condition) (hh : condition.height = 2)
    (hn : test.accepts .null = false)
    (he : ∀ (item : Item) (s : String), item.value field = .text s →
      condition.eval item = .ofBool (some (test.accepts (.text s)))) :
    Agrees field test text condition where
  written := hw
  height := hh
  rejects_null := hn
  eval item hnull := by
    have hv := value_of_kind item field
    simp only [hk, hnull, false_and, false_or] at hv
    obtain ⟨s, hs⟩ := hv
    rw [he item s hs, hs]

theorem agrees_text (hk : field.kind = .text) (rel : Relation) (s : String) :
    Agrees field (.text rel s)
      (field.name.toList ++ ' ' :: ClauseText.relation rel ++ ' ' :: ClauseText.quote s.toList)
      (.compare (.column field) rel (.text s)) := by
  refine agrees_of_text hk (written_compare (writtenLeaf_column field) rel (writtenLeaf_text s)) rfl rfl ?_
  intro item actual hactual
  simp only [Condition.eval, hactual]
  rfl

theorem agrees_like (hk : field.kind = .text) {test : Test} {pattern : List Char}
    {tokens : List LikeToken}
    (hp : LikeToken.ofPattern (some ClauseText.likeEscape) pattern = tokens)
    (hn : test.accepts .null = false)
    (ht : ∀ s : String, LikeToken.Matches tokens s.toList ↔ test.accepts (.text s) = true) :
    Agrees field test (ClauseText.like field.name.toList pattern) (.like (.column field) tokens) := by
  refine agrees_of_text hk (hp ▸ written_like field pattern) rfl hn fun item s hs => ?_
  have hmatch : LikeToken.isMatch tokens s = test.accepts (.text s) := by
    rw [Bool.eq_iff_iff, LikeToken.isMatch_iff, ht]
  simp only [Condition.eval, hs, Clause.Value.ofField, Clause.Value.asText, Option.map_some, hmatch]

theorem agrees_regexp (hk : field.kind = .text) {s : String} {matcher : Patterns.Matcher}
    (hp : Patterns.compile s = .ok matcher) :
    Agrees field (.pattern matcher)
      (field.name.toList ++ " REGEXP ".toList ++ ClauseText.quote s.toList)
      (.regexp (.column field) matcher) := by
  refine agrees_of_text hk (written_regexp field s hp) rfl rfl fun item actual hactual => ?_
  simp only [Condition.eval, hactual]
  rfl

end Agrees

-- The pattern for a search is read as the searched text between its wild cards.
omit [Patterns] in
theorem ofPattern_escaped (text : List Char) :
    LikeToken.ofPattern (some ClauseText.likeEscape) (ClauseText.escapeLike text) =
        text.map .literal ∧
      LikeToken.ofPattern (some ClauseText.likeEscape) (ClauseText.escapeLike text ++ ['%']) =
        text.map .literal ++ [.anySequence] := by
  have h := ofPattern_escapeLike text []
  rw [List.append_nil] at h
  exact ⟨by rw [h]; simp [LikeToken.ofPattern],
    by rw [ofPattern_escapeLike]; simp [LikeToken.ofPattern, ClauseText.likeEscape]⟩

omit [Patterns] in
theorem ofPattern_percent (rest : List Char) :
    LikeToken.ofPattern (some ClauseText.likeEscape) ('%' :: rest) =
      .anySequence :: LikeToken.ofPattern (some ClauseText.likeEscape) rest := by
  cases rest <;> simp [LikeToken.ofPattern, ClauseText.likeEscape]

-- A comparison that is lowered has a condition that agrees with its test, and one that is not has
-- none.
theorem lowerText_ok {field : Field} {op : CompareOp} {s : String} {test : Test} {text : List Char}
    (hk : field.kind = .text) (h : lowerTyped field op (.text s) = .ok (test, text)) :
    ∃ condition, columnCondition field op (.text s) = some condition ∧
      Agrees field test text condition := by
  obtain ⟨hends, hboth⟩ := ofPattern_escaped s.toList
  cases op with
  | relation rel =>
      simp only [lowerTyped, hk, Except.ok.injEq, Prod.mk.injEq] at h
      obtain ⟨rfl, rfl⟩ := h
      exact ⟨_, by simp only [columnCondition, hk], agrees_text hk rel s⟩
  | contains =>
      simp only [lowerTyped, hk, Except.ok.injEq, Prod.mk.injEq] at h
      obtain ⟨rfl, rfl⟩ := h
      have hpattern := (ofPattern_percent _).trans (congrArg (LikeToken.anySequence :: ·) hboth)
      exact ⟨_, by simp only [columnCondition, hk], agrees_like hk hpattern rfl fun _ =>
        LikeToken.matches_anySequence_literals_anySequence⟩
  | startsWith =>
      simp only [lowerTyped, hk, Except.ok.injEq, Prod.mk.injEq] at h
      obtain ⟨rfl, rfl⟩ := h
      exact ⟨_, by simp only [columnCondition, hk], agrees_like hk hboth rfl fun _ =>
        LikeToken.matches_literals_anySequence⟩
  | endsWith =>
      simp only [lowerTyped, hk, Except.ok.injEq, Prod.mk.injEq] at h
      obtain ⟨rfl, rfl⟩ := h
      have hpattern := (ofPattern_percent _).trans (congrArg (LikeToken.anySequence :: ·) hends)
      exact ⟨_, by simp only [columnCondition, hk], agrees_like hk hpattern rfl fun _ =>
        LikeToken.matches_anySequence_literals⟩
  | matchesPattern =>
      cases hp : Patterns.compile s with
      | ok node =>
          simp only [lowerTyped, hk, hp, Except.ok.injEq, Prod.mk.injEq] at h
          obtain ⟨rfl, rfl⟩ := h
          exact ⟨_, by simp only [columnCondition, hk, hp], agrees_regexp hk hp⟩
      | error cause => simp [lowerTyped, hk, hp] at h

theorem lowerTyped_ok {field : Field} {op : CompareOp} {value : Value} {test : Test}
    {text : List Char} (h : lowerTyped field op value = .ok (test, text)) :
    ∃ condition, columnCondition field op value = some condition ∧
      Agrees field test text condition := by
  cases hk : field.kind with
  | bool =>
      cases value with
      | bool b =>
          rcases op with (_ | _ | _ | _ | _ | _) | _ | _ | _ | _ <;>
            simp only [lowerTyped, hk, reduceCtorEq, Except.ok.injEq, Prod.mk.injEq] at h
          · obtain ⟨rfl, rfl⟩ := h
            exact ⟨_, by simp only [columnCondition, hk]; rfl, agrees_bool hk b true⟩
          · obtain ⟨rfl, rfl⟩ := h
            exact ⟨_, by simp only [columnCondition, hk]; rfl, agrees_bool hk b false⟩
      | _ => simp [lowerTyped, hk] at h
  | integer =>
      cases value with
      | integer n =>
          cases op with
          | relation rel =>
              simp only [lowerTyped, hk, Except.ok.injEq, Prod.mk.injEq] at h
              obtain ⟨rfl, rfl⟩ := h
              exact ⟨_, by simp only [columnCondition, hk], agrees_integer hk rel n⟩
          | _ => simp [lowerTyped, hk] at h
      | _ => simp [lowerTyped, hk] at h
  | text =>
      cases value with
      | text s => exact lowerText_ok hk h
      | _ => simp [lowerTyped, hk] at h

theorem lowerTyped_error {field : Field} {op : CompareOp} {value : Value} {reason : Degradation}
    (h : lowerTyped field op value = .error reason) : columnCondition field op value = none := by
  cases hk : field.kind with
  | bool =>
      rcases op with (_ | _ | _ | _ | _ | _) | _ | _ | _ | _ <;> cases value <;>
        simp_all [lowerTyped, columnCondition]
  | integer => cases op <;> cases value <;> simp_all [lowerTyped, columnCondition]
  | text =>
      cases op with
      | matchesPattern =>
          cases value with
          | text s => cases hp : Patterns.compile s <;> simp_all [lowerTyped, columnCondition]
          | _ => simp [columnCondition, hk]
      | _ => cases value <;> simp_all [lowerTyped, columnCondition]

-- The guard makes the answer of a column that is absent a plain no.
theorem Agrees.eval_guarded {field : Field} {test : Test} {text : List Char} {condition : Condition}
    (h : Agrees field test text condition) (item : Item) :
    Condition.eval item
        (if field.isNullable then .and (.isNull (.column field) true) condition else condition) =
      .ofBool (some (test.accepts (item.value field))) := by
  by_cases hnull : item.value field = .null
  · have hnullable : field.isNullable = true := by
      rcases value_of_kind item field with ⟨-, hn⟩ | hv
      · exact hn
      · cases hk : field.kind <;> simp [hk, hnull] at hv
    rw [if_pos hnullable, hnull, h.rejects_null]
    simp only [Condition.eval, hnull]
    rfl
  · have heval := h.eval item hnull
    split
    · have hthere : Condition.eval item (.isNull (.column field) true) = .integer 1 := by
        cases hv : item.value field with
        | null => exact absurd hv hnull
        | bool b => simp only [Condition.eval, hv]; cases b <;> rfl
        | _ => simp only [Condition.eval, hv]; rfl
      simp only [Condition.eval] at hthere ⊢
      rw [hthere, heval]
      cases test.accepts (item.value field) <;> rfl
    · exact heval

theorem lowerComparison_constant {field : Field} {op : CompareOp} {value : Value}
    (h : value ≠ .null) :
    lowerComparison field op value = (do
      let (test, text) ← lowerTyped field op value
      return (test, ClauseText.guarded field text)) ∧
    comparisonCondition field op value = (columnCondition field op value).map fun condition =>
      if field.isNullable then .and (.isNull (.column field) true) condition else condition := by
  cases value with
  | null => exact absurd rfl h
  | _ => exact ⟨rfl, rfl⟩

theorem height_guarded {field : Field} {condition : Condition} (h : condition.height = 2) :
    Condition.height
      (if field.isNullable then .and (.isNull (.column field) true) condition else condition) ≤ 3 := by
  split
  · simp [Condition.height, h]
  · omega

theorem eval_isNull (item : Item) (field : Field) (negated : Bool) :
    Condition.eval item (.isNull (.column field) negated) =
      .ofBool (some ((item.value field == .null) != negated)) := by
  cases hv : item.value field with
  | bool b => simp only [Condition.eval, hv]; cases b <;> rfl
  | _ => simp only [Condition.eval, hv]; rfl

theorem lowerComparison_ok {field : Field} {op : CompareOp} {value : Value} {test : Test}
    {text : List Char} (h : lowerComparison field op value = .ok (test, text)) :
    ∃ condition, comparisonCondition field op value = some condition ∧
      Written 1 text condition ∧ condition.height ≤ 3 ∧
      ∀ item : Item, condition.eval item = .ofBool (some (test.accepts (item.value field))) := by
  by_cases hvalue : value = .null
  · subst hvalue
    by_cases hnullable : field.isNullable = true
    · rcases op with (_ | _ | _ | _ | _ | _) | _ | _ | _ | _ <;>
        simp only [lowerComparison, hnullable, Bool.not_true, Bool.false_eq_true, if_false,
          reduceCtorEq, Except.ok.injEq, Prod.mk.injEq] at h
      · obtain ⟨rfl, rfl⟩ := h
        refine ⟨.isNull (.column field) false, by simp only [comparisonCondition, hnullable, if_true],
          written_isNull field, by simp [Condition.height], fun item => ?_⟩
        rw [eval_isNull, Bool.bne_false]
        rfl
      · obtain ⟨rfl, rfl⟩ := h
        refine ⟨.isNull (.column field) true, by simp only [comparisonCondition, hnullable, if_true],
          ?_, by simp [Condition.height], fun item => ?_⟩
        · simpa using (written_isNotNull field).parentheses
        · rw [eval_isNull, Bool.bne_true]
          rfl
    · simp [lowerComparison, hnullable] at h
  · obtain ⟨hlower, hcondition⟩ := @lowerComparison_constant _ field op value hvalue
    rw [hlower] at h
    cases htyped : lowerTyped field op value with
    | error reason => rw [htyped] at h; cases h
    | ok found =>
        obtain ⟨test', text'⟩ := found
        rw [htyped] at h
        obtain ⟨rfl, rfl⟩ := Prod.mk.inj (Except.ok.inj h)
        obtain ⟨condition, hsome, hagrees⟩ := lowerTyped_ok htyped
        exact ⟨_, by rw [hcondition, hsome]; rfl, written_guarded hagrees.written hagrees.height,
          height_guarded hagrees.height, hagrees.eval_guarded⟩

theorem lowerComparison_error {field : Field} {op : CompareOp} {value : Value}
    {reason : Degradation} (h : lowerComparison field op value = .error reason) :
    comparisonCondition field op value = none := by
  by_cases hvalue : value = .null
  · subst hvalue
    by_cases hnullable : field.isNullable = true
    · rcases op with (_ | _ | _ | _ | _ | _) | _ | _ | _ | _ <;>
        simp_all [lowerComparison, comparisonCondition]
    · rcases op with (_ | _ | _ | _ | _ | _) | _ | _ | _ | _ <;>
        simp_all [comparisonCondition]
  · obtain ⟨hlower, hcondition⟩ := @lowerComparison_constant _ field op value hvalue
    rw [hlower] at h
    cases htyped : lowerTyped field op value with
    | error reason => rw [hcondition, lowerTyped_error htyped]; rfl
    | ok found => rw [htyped] at h; cases h

-- The text of a filter is written as its clause: every level opens at most two more, and a
-- comparison under all of them one.
theorem lower_written (e : Expr) {levels : Nat} (h : levels ≤ maxDepth) :
    Written (2 * levels + 1) (e.lower levels).clause (e.condition levels) ∧
      (e.condition levels).height ≤ levels + 2 := by
  induction levels generalizing e with
  | zero => exact ⟨written_never, by simp [Expr.condition, never, Condition.height]⟩
  | succ levels ih =>
      have hdepth : levels + 3 ≤ maxClauseDepth := by
        simp only [maxClauseDepth, maxDepth] at h ⊢
        omega
      cases e with
      | literal b =>
          cases b with
          | true => exact ⟨written_always.mono (by omega), by simp [Expr.condition, always, Condition.height]⟩
          | false => exact ⟨written_never.mono (by omega), by simp [Expr.condition, never, Condition.height]⟩
      | contradiction =>
          exact ⟨written_never.mono (by omega), by simp [Expr.condition, never, Condition.height]⟩
      | compare field op value =>
          cases hlower : lowerComparison field op value with
          | ok found =>
              obtain ⟨test, text⟩ := found
              obtain ⟨condition, hsome, hwritten, hheight, -⟩ := lowerComparison_ok hlower
              simp only [Expr.lower, hlower, Expr.condition, hsome, Option.getD_some]
              exact ⟨hwritten.mono (by omega), by omega⟩
          | error reason =>
              simp only [Expr.lower, hlower, Expr.condition, lowerComparison_error hlower,
                Option.getD_none]
              exact ⟨written_never.mono (by omega), by simp [never, Condition.height]⟩
      | and left right =>
          obtain ⟨hl, hlh⟩ := ih left (by omega)
          obtain ⟨hr, hrh⟩ := ih right (by omega)
          have hh : (Condition.and (left.condition levels) (right.condition levels)).height ≤ levels + 3 := by
            simp only [Condition.height]; omega
          exact ⟨(hl.and hr (by omega)).mono (by omega), hh⟩
      | or left right =>
          obtain ⟨hl, hlh⟩ := ih left (by omega)
          obtain ⟨hr, hrh⟩ := ih right (by omega)
          have hh : (Condition.or (left.condition levels) (right.condition levels)).height ≤ levels + 3 := by
            simp only [Condition.height]; omega
          exact ⟨(hl.or hr (by omega)).mono (by omega), hh⟩
      | not inner =>
          obtain ⟨hi, hih⟩ := ih inner (by omega)
          have hh : (Condition.not (inner.condition levels)).height ≤ levels + 3 := by
            simp only [Condition.height]; omega
          exact ⟨(hi.not (by omega)).mono (by omega), hh⟩

-- Neither side of a connective is unknown, so that its clause has two values as well.
theorem eval_condition (e : Expr) (levels : Nat) (item : Item) :
    (e.condition levels).eval item =
      .ofBool (some ((e.lower levels).predicate.accepts item)) := by
  induction levels generalizing e with
  | zero => rfl
  | succ levels ih =>
      cases e with
      | literal b => cases b <;> rfl
      | contradiction => rfl
      | compare field op value =>
          cases hlower : lowerComparison field op value with
          | ok found =>
              obtain ⟨test, text⟩ := found
              obtain ⟨condition, hsome, -, -, heval⟩ := lowerComparison_ok hlower
              simp only [Expr.condition, Expr.lower, hlower, hsome, Option.getD_some, heval]
              rfl
          | error reason =>
              simp only [Expr.condition, Expr.lower, hlower, lowerComparison_error hlower,
                Option.getD_none]
              rfl
      | and left right =>
          change Clause.Value.ofBool (andTruth _ _) = .ofBool (some (_ && _))
          rw [ih left, ih right]
          cases (left.lower levels).predicate.accepts item <;>
            cases (right.lower levels).predicate.accepts item <;> rfl
      | or left right =>
          change Clause.Value.ofBool (orTruth _ _) = .ofBool (some (_ || _))
          rw [ih left, ih right]
          cases (left.lower levels).predicate.accepts item <;>
            cases (right.lower levels).predicate.accepts item <;> rfl
      | not inner =>
          change Clause.Value.ofBool (notTruth _) = .ofBool (some (!_))
          rw [ih inner]
          cases (inner.lower levels).predicate.accepts item <;> rfl

-- The text of a compiled filter is read as its clause.
theorem parse_compile (e : Expr) :
    Condition.parse e.compile.queryText = .ok (e.condition maxDepth) :=
  (lower_written e (Nat.le_refl _)).1.parse (by decide)

theorem holds_condition (e : Expr) (item : Item) :
    (e.condition maxDepth).holds item = e.compile.accepts item := by
  rw [Condition.holds, eval_condition]
  change _ = (e.lower maxDepth).predicate.accepts item
  cases (e.lower maxDepth).predicate.accepts item <;> rfl

end FilteredFeed.Filter
