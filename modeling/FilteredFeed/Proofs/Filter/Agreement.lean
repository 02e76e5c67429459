import FilteredFeed.Filter.Agreement
import FilteredFeed.Proofs.Filter.Translation

namespace FilteredFeed.Filter

open FilteredFeed.Clause FilteredFeed.Feed FilteredFeed.Grammar

variable [Patterns]

namespace Agreement

-- The verdict of a compiled filter on an item is the same twice.
def verdictOf (filter : CompiledFilter) (item : Item) : Verdict :=
  ⟨item.id, filter.accepts item, filter.accepts item⟩

theorem mapM_verdicts (e : Expr) (items : List Item) :
    (items.mapM fun item => do
      let condition ← Condition.parse e.compile.queryText
      return (⟨item.id, e.compile.accepts item, condition.holds item⟩ : Verdict)) =
      Except.ok (items.map (verdictOf e.compile)) := by
  induction items with
  | nil => rfl
  | cons item items ih =>
      rw [List.mapM_cons, ih, parse_compile]
      simp only [ok_bind, holds_condition]
      rfl

-- A check fails only where the filter cannot be read.
theorem check_eq (text : String) (items : List Item) :
    check text items = (Expr.parse text).map fun e =>
      ⟨e.compile.queryText, items.map (verdictOf e.compile)⟩ := by
  unfold check
  cases Expr.parse text with
  | error e => rfl
  | ok e =>
      have h := mapM_verdicts e items
      simp only [ok_bind, bind_pure_comp] at h ⊢
      rw [h]
      rfl

theorem mismatches_verdicts (queryText : String) (filter : CompiledFilter) (items : List Item) :
    mismatches ⟨queryText, items.map (verdictOf filter)⟩ = [] := by
  simp only [mismatches, List.filter_eq_nil_iff, List.mem_map]
  rintro _ ⟨item, -, rfl⟩
  simp [verdictOf, Verdict.agrees]

end Agreement

-- The text of a compiled filter can be read, has a truth value for every item, and selects what the
-- filter accepts. A check of the two forms fails only where the filter cannot be read, and finds
-- no mismatch.
theorem queryText_selects_accepted :
    (∀ (e : Expr) (item : Item), ∃ condition,
      Condition.parse e.compile.queryText = .ok condition ∧
        condition.eval item = .integer (if e.compile.accepts item then 1 else 0) ∧
        condition.holds item = e.compile.accepts item) ∧
    ∀ (text : String) (items : List Item),
      (Agreement.check text items).map Agreement.mismatches = (Expr.parse text).map fun _ => [] := by
  constructor
  · intro e item
    refine ⟨_, parse_compile e, ?_, holds_condition e item⟩
    rw [eval_condition]
    change Clause.Value.ofBool (some (e.compile.accepts item)) = _
    cases e.compile.accepts item <;> rfl
  · intro text items
    rw [Agreement.check_eq]
    cases Expr.parse text with
    | error e => rfl
    | ok e => exact congrArg Except.ok (Agreement.mismatches_verdicts _ _ items)

end FilteredFeed.Filter
