import FilteredFeed.Pattern.Builtin
import FilteredFeed.Proofs.Filter.Grammar
import FilteredFeed.Proofs.Filter.Translation

namespace FilteredFeed.Filter

open FilteredFeed.Clause FilteredFeed.Feed FilteredFeed.Grammar FilteredFeed.Text

def Relation.Relates {α : Type} [LE α] [LT α] : Relation → α → α → Prop
  | .eq, a, b => a = b
  | .ne, a, b => a ≠ b
  | .lt, a, b => a < b
  | .le, a, b => a ≤ b
  | .gt, a, b => b < a
  | .ge, a, b => b ≤ a

def CompareOp.isRelational : CompareOp → Bool
  | .relation _ => true
  | _ => false

def CompareOp.isEquality : CompareOp → Bool
  | .relation .eq | .relation .ne => true
  | _ => false

theorem CompareOp.isEquality_iff {op : CompareOp} :
    op.isEquality = true ↔ op = .relation .eq ∨ op = .relation .ne := by
  rcases op with (_ | _ | _ | _ | _ | _) | _ | _ | _ | _ <;> simp [isEquality]

section

variable [Patterns]

-- The comparisons that have a meaning, by the kind of the constant.
def WellTyped (field : Field) (op : CompareOp) : Value → Prop
  | .bool _ => field.kind = .bool ∧ op.isEquality
  | .integer _ => field.kind = .integer ∧ op.isRelational
  | .text s => field.kind = .text ∧ (op = .matchesPattern → (Patterns.compile s).isOk)
  | .null => field.isNullable ∧ op.isEquality

instance (field : Field) (op : CompareOp) : (value : Value) → Decidable (WellTyped field op value)
  | .bool _ => inferInstanceAs (Decidable (_ ∧ _))
  | .integer _ => inferInstanceAs (Decidable (_ ∧ _))
  | .text _ => inferInstanceAs (Decidable (_ ∧ (_ → _)))
  | .null => inferInstanceAs (Decidable (_ ∧ _))

-- What an operator says of a value and a constant. Of an absent value nothing is said but that it
-- is absent.
def CompareOp.Says : CompareOp → FieldValue → Value → Prop
  | .relation .eq, actual, .null => actual = .null
  | .relation .ne, actual, .null => actual ≠ .null
  | .relation .eq, .bool a, .bool b => a = b
  | .relation .ne, .bool a, .bool b => a ≠ b
  | .relation rel, .integer a, .integer b => rel.Relates a b.toInt
  | .relation rel, .text a, .text b => rel.Relates a b
  | .contains, .text a, .text b => b.toList <:+: a.toList
  | .startsWith, .text a, .text b => b.toList <+: a.toList
  | .endsWith, .text a, .text b => b.toList <:+ a.toList
  | .matchesPattern, .text a, .text b =>
      ∃ matcher, Patterns.compile b = .ok matcher ∧ Patterns.isMatch matcher a
  | _, _, _ => False

-- Why a comparison that is not well-typed is lost.
def lossOf (field : Field) (op : CompareOp) : Value → Degradation
  | .null => .invalidNullComparison field op
  | .text s =>
      match field.kind, op, Patterns.compile s with
      | .text, .matchesPattern, .error reason => .invalidPattern field reason
      | _, _, _ => .typeMismatch field op (.text s)
  | value => .typeMismatch field op value

namespace Expr

-- What an expression says of an item, of which so many levels are heard. What is ill-typed or
-- deeper is false.
def Means (item : Item) : Nat → Expr → Prop
  | 0, _ => False
  | levels + 1, e =>
      match e with
      | .literal b => b
      | .contradiction => False
      | .compare field op value => WellTyped field op value ∧ op.Says (item.value field) value
      | .and left right => left.Means item levels ∧ right.Means item levels
      | .or left right => left.Means item levels ∨ right.Means item levels
      | .not inner => ¬inner.Means item levels

-- What of an expression is not heard, from left to right.
def losses : Nat → Expr → List Degradation
  | 0, _ => [.tooDeep maxDepth]
  | levels + 1, e =>
      match e with
      | .literal _ | .contradiction => []
      | .compare field op value => if WellTyped field op value then [] else [lossOf field op value]
      | .and left right => left.losses levels ++ right.losses levels
      | .or left right => left.losses levels ++ right.losses levels
      | .not inner => inner.losses levels

end Expr

omit [Patterns] in
theorem Relation.holds_compare {α : Type} [LinearOrder α] (rel : Relation) (a b : α) :
    rel.holds (compare a b) = true ↔ rel.Relates a b := by
  cases rel <;> simp [holds, Relates, compare_lt_iff_lt, compare_gt_iff_gt]

section Search

variable {needle text : List Char}

omit [Patterns] in
theorem startsWith_iff_prefix : startsWith needle text = true ↔ needle <+: text :=
  List.isPrefixOf_iff_prefix

omit [Patterns] in
theorem endsWith_iff_suffix : endsWith needle text = true ↔ needle <:+ text := by
  rw [endsWith, List.isPrefixOf_iff_prefix, List.reverse_prefix]

omit [Patterns] in
theorem occursIn_iff_infix : occursIn needle text = true ↔ needle <:+: text := by
  rw [LikeToken.occursIn_iff]
  constructor
  · rintro ⟨run, rest, rfl⟩
    exact ⟨run, rest, List.append_assoc ..⟩
  · rintro ⟨run, rest, rfl⟩
    exact ⟨run, rest, List.append_assoc ..⟩

end Search

section Comparison

variable {field : Field} {op : CompareOp}

-- The test of a well-typed comparison asks what its operator says.
theorem lowerTyped_bool {b : Bool} (h : WellTyped field op (.bool b)) :
    ∃ test text, lowerTyped field op (.bool b) = .ok (test, text) ∧
      ∀ actual, test.accepts actual = true ↔ op.Says actual (.bool b) := by
  obtain ⟨hk, hop⟩ := h
  obtain rfl | rfl := CompareOp.isEquality_iff.mp hop
  · refine ⟨.bool b true, _, by simp only [lowerTyped, hk]; rfl, fun actual => ?_⟩
    cases actual <;> simp [Test.accepts, CompareOp.Says]
  · refine ⟨.bool b false, _, by simp only [lowerTyped, hk]; rfl, fun actual => ?_⟩
    cases actual <;> simp [Test.accepts, CompareOp.Says]

theorem lowerTyped_integer {n : Int64} (h : WellTyped field op (.integer n)) :
    ∃ test text, lowerTyped field op (.integer n) = .ok (test, text) ∧
      ∀ actual, test.accepts actual = true ↔ op.Says actual (.integer n) := by
  obtain ⟨hk, hop⟩ := h
  cases op with
  | relation rel =>
      refine ⟨.integer rel n, _, by simp only [lowerTyped, hk]; rfl, fun actual => ?_⟩
      cases actual with
      | integer m =>
          rw [Test.accepts, Relation.holds_compare]
          cases rel <;> rfl
      | _ => cases rel <;> simp [Test.accepts, CompareOp.Says]
  | _ => cases hop

theorem lowerTyped_text {s : String} (h : WellTyped field op (.text s)) :
    ∃ test text, lowerTyped field op (.text s) = .ok (test, text) ∧
      ∀ actual, test.accepts actual = true ↔ op.Says actual (.text s) := by
  obtain ⟨hk, hpattern⟩ := h
  cases op with
  | relation rel =>
      refine ⟨.text rel s, _, by simp only [lowerTyped, hk]; rfl, fun actual => ?_⟩
      cases actual with
      | text a =>
          rw [Test.accepts, Relation.holds_compare]
          cases rel <;> rfl
      | _ => cases rel <;> simp [Test.accepts, CompareOp.Says]
  | contains =>
      refine ⟨.contains s, _, by simp only [lowerTyped, hk]; rfl, fun actual => ?_⟩
      cases actual <;> simp [Test.accepts, CompareOp.Says, occursIn_iff_infix]
  | startsWith =>
      refine ⟨.startsWith s, _, by simp only [lowerTyped, hk]; rfl, fun actual => ?_⟩
      cases actual <;> simp [Test.accepts, CompareOp.Says, startsWith_iff_prefix]
  | endsWith =>
      refine ⟨.endsWith s, _, by simp only [lowerTyped, hk]; rfl, fun actual => ?_⟩
      cases actual <;> simp [Test.accepts, CompareOp.Says, endsWith_iff_suffix]
  | matchesPattern =>
      cases hp : Patterns.compile s with
      | error cause => simp [hp, Except.isOk, Except.toBool] at hpattern
      | ok node =>
          refine ⟨.pattern node, _, by simp only [lowerTyped, hk, hp]; rfl, fun actual => ?_⟩
          cases actual <;> simp [Test.accepts, CompareOp.Says, hp]

theorem lowerComparison_wellTyped {value : Value} (h : WellTyped field op value) :
    ∃ test text, lowerComparison field op value = .ok (test, text) ∧
      ∀ actual, test.accepts actual = true ↔ op.Says actual value := by
  by_cases hvalue : value = .null
  · subst hvalue
    obtain ⟨hnullable, hop⟩ := h
    obtain rfl | rfl := CompareOp.isEquality_iff.mp hop
    · refine ⟨.isNull, _, by simp only [lowerComparison, hnullable]; rfl, fun actual => ?_⟩
      simp [Test.accepts, CompareOp.Says]
    · refine ⟨.isNotNull, _, by simp only [lowerComparison, hnullable]; rfl, fun actual => ?_⟩
      simp [Test.accepts, CompareOp.Says]
  · have htyped : ∃ test text, lowerTyped field op value = .ok (test, text) ∧
        ∀ actual, test.accepts actual = true ↔ op.Says actual value := by
      cases value with
      | bool b => exact lowerTyped_bool h
      | integer n => exact lowerTyped_integer h
      | text s => exact lowerTyped_text h
      | null => exact absurd rfl hvalue
    obtain ⟨test, text, hlower, hsays⟩ := htyped
    refine ⟨test, ClauseText.guarded field text, ?_, hsays⟩
    rw [(lowerComparison_constant hvalue).1, hlower]
    rfl

theorem lowerTyped_illTyped {value : Value} (hvalue : value ≠ .null)
    (h : ¬WellTyped field op value) : lowerTyped field op value = .error (lossOf field op value) := by
  cases value with
  | bool b =>
      by_cases hk : field.kind = .bool
      · rcases op with (_ | _ | _ | _ | _ | _) | _ | _ | _ | _ <;>
          simp_all [WellTyped, CompareOp.isEquality, lowerTyped, lossOf]
      · cases hkind : field.kind <;> simp_all [lowerTyped, lossOf]
  | integer n =>
      by_cases hk : field.kind = .integer
      · cases op <;> simp_all [WellTyped, CompareOp.isRelational, lowerTyped, lossOf]
      · cases hkind : field.kind <;> simp_all [lowerTyped, lossOf]
  | text s =>
      by_cases hk : field.kind = .text
      · obtain ⟨rfl, hpattern⟩ : op = .matchesPattern ∧ ¬(Patterns.compile s).isOk = true := by
          simpa [WellTyped, hk] using h
        cases hp : Patterns.compile s with
        | ok node => exact absurd (by rw [hp]; rfl) hpattern
        | error cause => simp only [lowerTyped, hk, hp, lossOf]
      · cases hkind : field.kind <;> simp_all [lowerTyped, lossOf]
  | null => exact absurd rfl hvalue

theorem lowerComparison_illTyped {value : Value} (h : ¬WellTyped field op value) :
    lowerComparison field op value = .error (lossOf field op value) := by
  by_cases hvalue : value = .null
  · subst hvalue
    by_cases hnullable : field.isNullable = true
    · rcases op with (_ | _ | _ | _ | _ | _) | _ | _ | _ | _ <;>
        simp_all [WellTyped, CompareOp.isEquality, lowerComparison, lossOf]
    · simp [lowerComparison, hnullable, lossOf]
  · rw [(lowerComparison_constant hvalue).1, lowerTyped_illTyped hvalue h]
    rfl

end Comparison

-- What is taken of an expression accepts what the expression means, and what is lost is reported.
theorem accepts_lower (e : Expr) (levels : Nat) (item : Item) :
    (e.lower levels).predicate.accepts item = true ↔ e.Means item levels := by
  induction levels generalizing e with
  | zero => simp [Expr.lower, Expr.Means, Lowered.degraded, Lowered.contradiction, Predicate.accepts]
  | succ levels ih =>
      cases e with
      | literal b => cases b <;> simp [Expr.lower, Expr.Means, Lowered.tautology,
          Lowered.contradiction, Predicate.accepts]
      | contradiction => simp [Expr.lower, Expr.Means, Lowered.contradiction, Predicate.accepts]
      | compare field op value =>
          by_cases htyped : WellTyped field op value
          · obtain ⟨test, text, hlower, hsays⟩ := lowerComparison_wellTyped htyped
            simp [Expr.lower, hlower, Expr.Means, htyped, Predicate.accepts, hsays]
          · simp [Expr.lower, lowerComparison_illTyped htyped, Expr.Means, htyped,
              Lowered.degraded, Lowered.contradiction, Predicate.accepts]
      | and left right =>
          simp [Expr.lower, Expr.Means, Lowered.join, Predicate.accepts, ih]
      | or left right =>
          simp [Expr.lower, Expr.Means, Lowered.join, Predicate.accepts, ih]
      | not inner =>
          simp [Expr.lower, Expr.Means, Lowered.negate, Predicate.accepts, ← ih]

theorem degradations_lower (e : Expr) (levels : Nat) :
    (e.lower levels).degradations = e.losses levels := by
  induction levels generalizing e with
  | zero => rfl
  | succ levels ih =>
      cases e with
      | literal b => cases b <;> rfl
      | contradiction => rfl
      | compare field op value =>
          by_cases htyped : WellTyped field op value
          · obtain ⟨test, text, hlower, -⟩ := lowerComparison_wellTyped htyped
            simp only [Expr.lower, hlower, Expr.losses, if_pos htyped]
          · simp only [Expr.lower, lowerComparison_illTyped htyped, Expr.losses, if_neg htyped]
            rfl
      | and left right => exact congrArg₂ (· ++ ·) (ih left) (ih right)
      | or left right => exact congrArg₂ (· ++ ·) (ih left) (ih right)
      | not inner => exact ih inner

-- More levels than there are change nothing.
theorem lower_succ {e : Expr} {levels : Nat} (h : e.height ≤ levels) :
    e.lower (levels + 1) = e.lower levels := by
  induction levels generalizing e with
  | zero => exact absurd e.height_pos (by omega)
  | succ levels ih =>
      cases e with
      | and left right =>
          simp only [Expr.height] at h
          rw [Expr.lower, ih (by omega), ih (by omega)]
          rfl
      | or left right =>
          simp only [Expr.height] at h
          rw [Expr.lower, ih (by omega), ih (by omega)]
          rfl
      | not inner =>
          simp only [Expr.height] at h
          rw [Expr.lower, ih (by omega)]
          rfl
      | literal b => cases b <;> rfl
      | _ => rfl

theorem lossOf_ne_tooDeep {field : Field} {op : CompareOp} {value : Value} {max : Nat} :
    lossOf field op value ≠ .tooDeep max := by
  unfold lossOf
  split
  · intro h
    cases h
  · split
    · intro h
      cases h
    · intro h
      cases h
  · intro h
    cases h

theorem tooDeep_notMem_losses {e : Expr} {levels max : Nat} (h : e.height ≤ levels) :
    .tooDeep max ∉ e.losses levels := by
  induction levels generalizing e with
  | zero => exact absurd e.height_pos (by omega)
  | succ levels ih =>
      cases e with
      | compare field op value =>
          simp only [Expr.losses]
          split
          · simp
          · simpa using lossOf_ne_tooDeep.symm
      | and left right =>
          simp only [Expr.height] at h
          simp [Expr.losses, ih (show left.height ≤ levels by omega),
            ih (show right.height ≤ levels by omega)]
      | or left right =>
          simp only [Expr.height] at h
          simp [Expr.losses, ih (show left.height ≤ levels by omega),
            ih (show right.height ≤ levels by omega)]
      | not inner =>
          simp only [Expr.height] at h
          exact ih (by omega)
      | _ => simp [Expr.losses]

-- A compiled filter accepts what its expression means and reports what it lost. A negation accepts
-- what its operand does not, and an expression that was read loses nothing for its depth.
theorem compile_accepts_meaning :
    (∀ (e : Expr) (item : Item), e.compile.accepts item = true ↔ e.Means item maxDepth) ∧
    (∀ e : Expr, e.compile.degradations = e.losses maxDepth) ∧
    (∀ (e : Expr) (item : Item), e.height ≤ 255 →
      (Expr.not e).compile.accepts item = !e.compile.accepts item) ∧
    ∀ (text : String) (e : Expr) (max : Nat), Expr.parse text = .ok e →
      .tooDeep max ∉ e.compile.degradations := by
  refine ⟨fun e item => accepts_lower e maxDepth item, fun e => degradations_lower e maxDepth,
    fun e item h => ?_, fun text e max h => ?_⟩
  · have hlower : e.lower 256 = e.lower 255 := lower_succ h
    change (!(e.lower 255).predicate.accepts item) = !(e.lower 256).predicate.accepts item
    rw [hlower]
  · obtain ⟨tokens, -, htokens⟩ := lex_of_parse h
    obtain ⟨-, -, hheight, -⟩ := ofTokens_eq_ok htokens
    rw [show e.compile.degradations = e.losses maxDepth from degradations_lower e maxDepth]
    exact tooDeep_notMem_losses hheight

end

-- A language that is absent is not English, and a truth value is no language.
theorem compile_accepts_meaning_absentLang :
    (Expr.not (.compare .lang .contains (.text "en"))).compile.accepts ⟨7, "a", "", false, false,
        none, 0, none, Instant.epoch⟩ =
      !(Expr.compare .lang .contains (.text "en")).compile.accepts ⟨7, "a", "", false, false,
        none, 0, none, Instant.epoch⟩ ∧
    .tooDeep 256 ∉ (Expr.not (.compare .lang (.relation .eq) (.bool true))).compile.degradations := by
  have hlex : lex "!lang == true" =
      .ok [.not, .ident "lang", .compare (.relation .eq), .bool true] := by cbv
  have hparse : Expr.parse "!lang == true" =
      .ok (.not (.compare .lang (.relation .eq) (.bool true))) :=
    (parse_of_lex hlex (by simp)).trans rfl
  exact ⟨compile_accepts_meaning.2.2.1 _ _ (by decide),
    compile_accepts_meaning.2.2.2 "!lang == true" _ 256 hparse⟩

end FilteredFeed.Filter
