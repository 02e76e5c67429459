import FilteredFeed.Pattern.Builtin
import FilteredFeed.Proofs.Filter.Meaning

namespace FilteredFeed.Clause

variable [Patterns]

def LikeToken.isWild : LikeToken → Bool
  | .anySequence | .anyChar => true
  | .literal _ => false

-- A condition with every text in it left blank, and one pattern in place of all: what is left is its
-- structure.
def Condition.blank (matcher : Patterns.Matcher) : Condition → Condition
  | .text _ => .text ""
  | .compare left rel right => .compare (left.blank matcher) rel (right.blank matcher)
  | .isNull inner negated => .isNull (inner.blank matcher) negated
  | .like inner pattern => .like (inner.blank matcher) (pattern.filter LikeToken.isWild)
  | .regexp inner _ => .regexp (inner.blank matcher) matcher
  | .and left right => .and (left.blank matcher) (right.blank matcher)
  | .or left right => .or (left.blank matcher) (right.blank matcher)
  | .not inner => .not (inner.blank matcher)
  | condition => condition

end FilteredFeed.Clause

namespace FilteredFeed.Filter

open FilteredFeed.Clause FilteredFeed.Feed

section

variable [Patterns]

-- A constant with its text left blank. A pattern that can be compiled makes way for the given one, and
-- another stays what it is.
def Value.blank (pattern : String) (op : CompareOp) : Value → Value
  | .text s =>
      if op = .matchesPattern then
        if (Patterns.compile s).isOk then .text pattern else .text s
      else .text ""
  | value => value

def Expr.blank (pattern : String) : Expr → Expr
  | .compare field op value => .compare field op (value.blank pattern op)
  | .and left right => .and (left.blank pattern) (right.blank pattern)
  | .or left right => .or (left.blank pattern) (right.blank pattern)
  | .not inner => .not (inner.blank pattern)
  | e => e

omit [Patterns] in
theorem filter_isWild_literals (text : List Char) :
    (text.map LikeToken.literal).filter LikeToken.isWild = [] := by
  simp [List.filter_eq_nil_iff, LikeToken.isWild]

section Blank

variable {field : Field} {op : CompareOp} {value : Value} {pattern : String}
variable {matcher : Patterns.Matcher}

-- A comparison has a condition of its own exactly if it is well-typed.
theorem isSome_comparisonCondition :
    (comparisonCondition field op value).isSome ↔ WellTyped field op value := by
  by_cases h : WellTyped field op value
  · obtain ⟨test, text, hlower, -⟩ := lowerComparison_wellTyped h
    obtain ⟨condition, hsome, -⟩ := lowerComparison_ok hlower
    simp [hsome, h]
  · simp [lowerComparison_error (lowerComparison_illTyped h), h]

theorem wellTyped_blank (hpattern : Patterns.compile pattern = .ok matcher) :
    WellTyped field op (value.blank pattern op) ↔ WellTyped field op value := by
  cases value with
  | text s =>
      by_cases hop : op = .matchesPattern
      · have hvalid : (Patterns.compile pattern).isOk = true := by rw [hpattern]; rfl
        by_cases hs : (Patterns.compile s).isOk = true <;>
          simp [Value.blank, WellTyped, hop, hs, hvalid]
      · simp [Value.blank, WellTyped, hop]
  | _ => rfl

theorem columnCondition_blank (hpattern : Patterns.compile pattern = .ok matcher)
    (h : WellTyped field op value) (hvalue : value ≠ .null) :
    columnCondition field op (value.blank pattern op) =
      (columnCondition field op value).map (Condition.blank matcher) := by
  cases value with
  | bool b =>
      obtain ⟨hk, hop⟩ := h
      obtain rfl | rfl := CompareOp.isEquality_iff.mp hop <;>
        simp only [columnCondition, hk, Value.blank] <;> rfl
  | integer n =>
      obtain ⟨hk, hop⟩ := h
      cases op with
      | relation rel => simp only [columnCondition, hk, Value.blank]; rfl
      | _ => cases hop
  | text s =>
      obtain ⟨hk, hvalid⟩ := h
      cases op with
      | relation rel => simp only [columnCondition, hk, Value.blank]; rfl
      | matchesPattern =>
          cases hs : Patterns.compile s with
          | error reason => simp [hs, Except.isOk, Except.toBool] at hvalid
          | ok found =>
              simp [columnCondition, hk, Value.blank, hs, Except.isOk, Except.toBool, hpattern,
                Condition.blank]
      | _ =>
          simp [columnCondition, hk, Value.blank, Condition.blank, filter_isWild_literals,
            List.filter_cons, LikeToken.isWild]
  | null => exact absurd rfl hvalue

theorem comparisonCondition_blank (hpattern : Patterns.compile pattern = .ok matcher) :
    comparisonCondition field op (value.blank pattern op) =
      (comparisonCondition field op value).map (Condition.blank matcher) := by
  by_cases htyped : WellTyped field op value
  · by_cases hvalue : value = .null
    · subst hvalue
      obtain ⟨hnullable, hop⟩ := htyped
      obtain rfl | rfl := CompareOp.isEquality_iff.mp hop <;>
        simp only [comparisonCondition, Value.blank, hnullable] <;> rfl
    · have hblank : value.blank pattern op ≠ .null := by
        cases value with
        | text s => simp only [Value.blank]; split <;> [split; skip] <;> simp
        | _ => exact hvalue
      rw [(lowerComparison_constant hblank).2, (lowerComparison_constant hvalue).2,
        columnCondition_blank hpattern htyped hvalue]
      cases columnCondition field op value with
      | none => rfl
      | some condition => simp only [Option.map_some]; split <;> rfl
  · have hblank := mt (wellTyped_blank hpattern).mp htyped
    rw [lowerComparison_error (lowerComparison_illTyped htyped),
      lowerComparison_error (lowerComparison_illTyped hblank)]
    rfl

end Blank

theorem condition_blank {pattern : String} {matcher : Patterns.Matcher}
    (hpattern : Patterns.compile pattern = .ok matcher) (e : Expr) (levels : Nat) :
    (e.blank pattern).condition levels = (e.condition levels).blank matcher := by
  induction levels generalizing e with
  | zero => rfl
  | succ levels ih =>
      cases e with
      | literal b => cases b <;> rfl
      | contradiction => rfl
      | compare field op value =>
          simp only [Expr.blank, Expr.condition, comparisonCondition_blank hpattern]
          cases comparisonCondition field op value <;> rfl
      | and left right => exact congrArg₂ Condition.and (ih left) (ih right)
      | or left right => exact congrArg₂ Condition.or (ih left) (ih right)
      | not inner => exact congrArg Condition.not (ih inner)

-- The text of a filter is read as its clause, node by node, where only a comparison that is
-- ill-typed is never true; and whatever its texts hold, the clause has the structure it has with
-- the texts left blank and one pattern in place of all that can be compiled.
theorem queryText_structure :
    (∀ e : Expr, Condition.parse e.compile.queryText = .ok (e.condition maxDepth)) ∧
    (∀ (field : Field) (op : CompareOp) (value : Value),
      (comparisonCondition field op value).isSome ↔ WellTyped field op value) ∧
    ∀ (pattern : String) (matcher : Patterns.Matcher), Patterns.compile pattern = .ok matcher →
      ∀ e : Expr, Condition.parse (e.blank pattern).compile.queryText =
        (Condition.parse e.compile.queryText).map (Condition.blank matcher) := by
  refine ⟨parse_compile, fun _ _ _ => isSome_comparisonCondition, fun pattern matcher h e => ?_⟩
  rw [parse_compile, parse_compile, condition_blank h]
  rfl

end

-- A quote in a pattern ends neither the pattern nor its text.
theorem queryText_structure_quotedPattern :
    let e := Expr.compare .text .matchesPattern (.text "a'")
    let matcher := Pattern.Node.seq (.oneOf (.singleton 'a')) (.oneOf (.singleton '\''))
    Condition.parse e.compile.queryText = .ok (.regexp (.column .text) matcher) ∧
      Condition.parse (e.blank "").compile.queryText =
        .ok (.regexp (.column .text) Pattern.Node.empty) := by
  intro e matcher
  have hparse : Condition.parse e.compile.queryText = .ok (.regexp (.column .text) matcher) :=
    queryText_structure.1 e
  refine ⟨hparse, ?_⟩
  rw [queryText_structure.2.2 "" Pattern.Node.empty rfl, hparse]
  rfl

-- A quote does not end the text it stands in, and a percent sign stands for itself.
example : (Expr.compare .text .contains (.text "%' OR 1 = 1")).compile.queryText =
    "(text LIKE '%\\%'' OR 1 = 1%' ESCAPE '\\')" := by decide

end FilteredFeed.Filter
