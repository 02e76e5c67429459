import FilteredFeed.Feed.Item
import FilteredFeed.Filter.Expr
import FilteredFeed.Pattern.Patterns
import FilteredFeed.Text.Search

namespace FilteredFeed.Filter

open FilteredFeed.Feed FilteredFeed.Text

variable [Patterns]

-- Why a part of a filter matches nothing.
inductive Degradation where
  | typeMismatch (field : Field) (op : CompareOp) (value : Value)
  | invalidNullComparison (field : Field) (op : CompareOp)
  | invalidPattern (field : Field) (reason : String)
  | tooDeep (max : Nat)
deriving DecidableEq, Repr

def Degradation.message : Degradation → String
  | .typeMismatch field op value =>
      "cannot compare " ++ field.kind.name ++ " field '" ++ field.name ++ "' with " ++
        value.typeName ++ " using '" ++ op.symbol ++ "'"
  | .invalidNullComparison field op =>
      "field '" ++ field.name ++ "' cannot be compared with null using '" ++ op.symbol ++ "'"
  | .invalidPattern field reason => "invalid pattern for '" ++ field.name ++ "': " ++ reason
  | .tooDeep max => "subtree nested more than " ++ toString max ++ " levels deep"

-- A well-typed question about one field.
inductive Test where
  | isNull
  | isNotNull
  | bool (expected equal : Bool)
  | integer (rel : Relation) (value : Int64)
  | text (rel : Relation) (value : String)
  | contains (needle : String)
  | startsWith (needle : String)
  | endsWith (needle : String)
  | pattern (matcher : Patterns.Matcher)

-- An absent value passes no test but the one for its absence.
def Test.accepts : Test → FieldValue → Bool
  | .isNull, value => value == .null
  | .isNotNull, value => value != .null
  | .bool expected equal, .bool b => (b == expected) == equal
  | .integer rel value, .integer n => rel.holds (compare n value.toInt)
  | .text rel value, .text s => rel.holds (compare s value)
  | .contains needle, .text s => occursIn needle.toList s.toList
  | .startsWith needle, .text s => Text.startsWith needle.toList s.toList
  | .endsWith needle, .text s => Text.endsWith needle.toList s.toList
  | .pattern matcher, .text s => Patterns.isMatch matcher s
  | _, _ => false

-- A filter as it is applied to items in memory.
inductive Predicate where
  | const (b : Bool)
  | compare (field : Field) (test : Test)
  | and (left right : Predicate)
  | or (left right : Predicate)
  | not (inner : Predicate)

def Predicate.accepts (item : Item) : Predicate → Bool
  | .const b => b
  | .compare field test => test.accepts (item.value field)
  | .and left right => left.accepts item && right.accepts item
  | .or left right => left.accepts item || right.accepts item
  | .not inner => !inner.accepts item

-- The clause of a filter for storage, written in the clause language.
namespace ClauseText

def relation : Relation → List Char
  | .eq => "=".toList
  | .ne => "<>".toList
  | .lt => "<".toList
  | .le => "<=".toList
  | .gt => ">".toList
  | .ge => ">=".toList

def tautology : List Char := "(1 = 1)".toList

def contradiction : List Char := "(0 = 1)".toList

-- Text stands in single quotes, and a quote in it is written twice.
def quote (text : List Char) : List Char :=
  '\'' :: text.flatMap (fun c => if c = '\'' then ['\'', '\''] else [c]) ++ ['\'']

def likeEscape : Char := '\\'

-- Takes their meaning from the wild cards.
def escapeLike (text : List Char) : List Char :=
  text.flatMap fun c => if c = '%' ∨ c = '_' ∨ c = likeEscape then [likeEscape, c] else [c]

def like (column : List Char) (pattern : List Char) : List Char :=
  column ++ " LIKE ".toList ++ quote pattern ++ " ESCAPE ".toList ++ quote [likeEscape]

-- A comparison of a column that may be absent asks first that it is not, so that a negation of
-- the whole keeps two values.
def guarded (field : Field) (condition : List Char) : List Char :=
  if field.isNullable then
    '(' :: field.name.toList ++ " IS NOT NULL AND ".toList ++ condition ++ [')']
  else '(' :: condition ++ [')']

end ClauseText

-- A well-typed comparison as a test and as the condition of a clause.
def lowerTyped (field : Field) (op : CompareOp) (value : Value) :
    Except Degradation (Test × List Char) :=
  let column := field.name.toList
  let mismatch := .error (.typeMismatch field op value)
  match field.kind, value with
  | .bool, .bool expected =>
      let digit := if expected then ['1'] else ['0']
      match op with
      | .relation .eq => .ok (.bool expected true, column ++ " = ".toList ++ digit)
      | .relation .ne => .ok (.bool expected false, column ++ " <> ".toList ++ digit)
      | _ => mismatch
  | .integer, .integer n =>
      match op with
      | .relation rel =>
          .ok (.integer rel n,
            column ++ ' ' :: ClauseText.relation rel ++ ' ' :: Decimal.ofInt64 n)
      | _ => mismatch
  | .text, .text s =>
      let escaped := ClauseText.escapeLike s.toList
      match op with
      | .contains => .ok (.contains s, ClauseText.like column ('%' :: escaped ++ ['%']))
      | .startsWith => .ok (.startsWith s, ClauseText.like column (escaped ++ ['%']))
      | .endsWith => .ok (.endsWith s, ClauseText.like column ('%' :: escaped))
      | .matchesPattern =>
          match Patterns.compile s with
          | .ok matcher =>
              .ok (.pattern matcher, column ++ " REGEXP ".toList ++ ClauseText.quote s.toList)
          | .error reason => .error (.invalidPattern field reason)
      | .relation rel =>
          .ok (.text rel s,
            column ++ ' ' :: ClauseText.relation rel ++ ' ' :: ClauseText.quote s.toList)
  | _, _ => mismatch

def lowerComparison (field : Field) (op : CompareOp) (value : Value) :
    Except Degradation (Test × List Char) :=
  match value with
  | .null =>
      let column := field.name.toList
      if !field.isNullable then .error (.invalidNullComparison field op)
      else
        match op with
        | .relation .eq => .ok (.isNull, '(' :: column ++ " IS NULL)".toList)
        | .relation .ne => .ok (.isNotNull, '(' :: column ++ " IS NOT NULL)".toList)
        | _ => .error (.invalidNullComparison field op)
  | value => do
      let (test, condition) ← lowerTyped field op value
      return (test, ClauseText.guarded field condition)

-- Both forms of an expression, and the parts of it that were lost.
structure Lowered where
  predicate : Predicate
  clause : List Char
  degradations : List Degradation

namespace Lowered

def tautology : Lowered := ⟨.const true, ClauseText.tautology, []⟩

def contradiction : Lowered := ⟨.const false, ClauseText.contradiction, []⟩

def degraded (reason : Degradation) : Lowered := { contradiction with degradations := [reason] }

def join (node : Predicate → Predicate → Predicate) (word : String) (left right : Lowered) :
    Lowered :=
  ⟨node left.predicate right.predicate, '(' :: left.clause ++ word.toList ++ right.clause ++ [')'],
    left.degradations ++ right.degradations⟩

def negate (inner : Lowered) : Lowered :=
  ⟨.not inner.predicate, "(NOT ".toList ++ inner.clause ++ [')'], inner.degradations⟩

end Lowered

-- Lowers an expression, of which `levels` levels are taken. What lies deeper matches nothing.
def Expr.lower : Nat → Expr → Lowered
  | 0, _ => .degraded (.tooDeep maxDepth)
  | levels + 1, e =>
      match e with
      | .literal true => .tautology
      | .literal false => .contradiction
      | .contradiction => .contradiction
      | .compare field op value =>
          match lowerComparison field op value with
          | .ok (test, clause) => ⟨.compare field test, clause, []⟩
          | .error reason => .degraded reason
      | .and left right => .join .and " AND " (left.lower levels) (right.lower levels)
      | .or left right => .join .or " OR " (left.lower levels) (right.lower levels)
      | .not inner => (inner.lower levels).negate

-- The two forms in which a filter is used. They accept the same items.
structure CompiledFilter where
  queryText : String
  predicate : Predicate
  degradations : List Degradation

namespace CompiledFilter

def contradiction : CompiledFilter :=
  ⟨.ofList ClauseText.contradiction, .const false, []⟩

def accepts (filter : CompiledFilter) (item : Item) : Bool := filter.predicate.accepts item

def isContradiction (filter : CompiledFilter) : Bool :=
  match filter.predicate with
  | .const false => true
  | _ => false

end CompiledFilter

-- Never fails: what cannot be compiled matches nothing, and is reported.
def Expr.compile (e : Expr) : CompiledFilter :=
  let lowered := e.lower maxDepth
  ⟨.ofList lowered.clause, lowered.predicate, lowered.degradations⟩

end FilteredFeed.Filter
