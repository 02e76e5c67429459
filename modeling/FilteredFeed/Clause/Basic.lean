import FilteredFeed.Clause.Like
import FilteredFeed.Feed.Item
import FilteredFeed.Filter.Expr
import FilteredFeed.Pattern.Patterns

namespace FilteredFeed.Clause

open FilteredFeed.Feed FilteredFeed.Filter FilteredFeed.Text

variable [Patterns]

-- A condition on the columns of an item, as storage evaluates it.
inductive Condition where
  | column (field : Field)
  | integer (n : Int64)
  | text (s : String)
  | null
  | compare (left : Condition) (rel : Relation) (right : Condition)
  | isNull (inner : Condition) (negated : Bool)
  | like (inner : Condition) (pattern : List LikeToken)
  | regexp (inner : Condition) (pattern : Patterns.Matcher)
  | and (left right : Condition)
  | or (left right : Condition)
  | not (inner : Condition)

-- The values of clauses. Truth values are the integers 0 and 1, or null where they are unknown.
inductive Value where
  | null
  | integer (n : Int)
  | text (s : String)
deriving DecidableEq, Repr

namespace Value

def ofBool : Option Bool → Value
  | some true => .integer 1
  | some false => .integer 0
  | none => .null

def ofField : FieldValue → Value
  | .null => .null
  | .integer n => .integer n
  | .text s => .text s
  | .bool true => .integer 1
  | .bool false => .integer 0

-- Text is true if it is the decimal of a number other than zero.
def truth : Value → Option Bool
  | .null => none
  | .integer n => some (n != 0)
  | .text s =>
      match Decimal.toInt64? (trim s.toList) with
      | some n => some (n != 0)
      | none => some false

-- Integers come before texts, and null has no place.
def compare : Value → Value → Option Ordering
  | .null, _ => none
  | _, .null => none
  | .integer a, .integer b => some (Ord.compare a b)
  | .text a, .text b => some (Ord.compare a b)
  | .integer _, .text _ => some .lt
  | .text _, .integer _ => some .gt

-- A value as text, of which patterns are asked.
def asText : Value → Option String
  | .null => none
  | .integer n => some (.ofList (Decimal.ofInt n))
  | .text s => some s

end Value

-- The three-valued connectives.
def andTruth : Option Bool → Option Bool → Option Bool
  | some false, _ => some false
  | _, some false => some false
  | some true, some true => some true
  | _, _ => none

def orTruth : Option Bool → Option Bool → Option Bool
  | some true, _ => some true
  | _, some true => some true
  | some false, some false => some false
  | _, _ => none

def notTruth (truth : Option Bool) : Option Bool := truth.map (!·)

namespace Condition

def eval (item : Item) : Condition → Value
  | .column field => .ofField (item.value field)
  | .integer n => .integer n.toInt
  | .text s => .text s
  | .null => .null
  | .compare left rel right =>
      .ofBool (((left.eval item).compare (right.eval item)).map rel.holds)
  | .isNull inner negated => .ofBool (some ((inner.eval item == .null) != negated))
  | .like inner pattern => .ofBool ((inner.eval item).asText.map (LikeToken.isMatch pattern))
  | .regexp inner pattern => .ofBool ((inner.eval item).asText.map (Patterns.isMatch pattern))
  | .and left right => .ofBool (andTruth (left.eval item).truth (right.eval item).truth)
  | .or left right => .ofBool (orTruth (left.eval item).truth (right.eval item).truth)
  | .not inner => .ofBool (notTruth (inner.eval item).truth)

-- An item of which the condition is unknown does not match.
def holds (condition : Condition) (item : Item) : Bool :=
  (condition.eval item).truth == some true

end Condition

end FilteredFeed.Clause
