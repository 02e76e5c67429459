import FilteredFeed.Feed.Field
import FilteredFeed.Text.Decimal

namespace FilteredFeed.Filter

open FilteredFeed.Feed FilteredFeed.Text

-- Equality and order.
inductive Relation where
  | eq
  | ne
  | lt
  | le
  | gt
  | ge
deriving DecidableEq, Repr

def Relation.holds : Relation → Ordering → Bool
  | .eq, order => order == .eq
  | .ne, order => order != .eq
  | .lt, order => order == .lt
  | .le, order => order != .gt
  | .gt, order => order == .gt
  | .ge, order => order != .lt

inductive CompareOp where
  | relation (rel : Relation)
  | contains
  | startsWith
  | endsWith
  | matchesPattern
deriving DecidableEq, Repr

def CompareOp.symbol : CompareOp → String
  | .relation .eq => "=="
  | .relation .ne => "!="
  | .relation .lt => "<"
  | .relation .le => "<="
  | .relation .gt => ">"
  | .relation .ge => ">="
  | .contains => "contains"
  | .startsWith => "startswith"
  | .endsWith => "endswith"
  | .matchesPattern => "matches"

-- The constant a field is compared with.
inductive Value where
  | text (s : String)
  | integer (n : Int64)
  | bool (b : Bool)
  | null
deriving DecidableEq, Repr

namespace Value

def typeName : Value → String
  | .text _ => "text"
  | .integer _ => "integer"
  | .bool _ => "bool"
  | .null => "null"

-- Text stands in double quotes, with a backslash before quotes and backslashes.
def escape (text : List Char) : List Char :=
  text.flatMap fun c => if c = '"' ∨ c = '\\' then ['\\', c] else [c]

def render : Value → List Char
  | .text s => '"' :: escape s.toList ++ ['"']
  | .integer n => Decimal.ofInt64 n
  | .bool b => (toString b).toList
  | .null => "null".toList

end Value

-- A filter as its author means it. `contradiction` stands for a filter that was never given, or
-- cannot be used, so that it shows nothing rather than everything.
inductive Expr where
  | literal (b : Bool)
  | compare (field : Field) (op : CompareOp) (value : Value)
  | and (left right : Expr)
  | or (left right : Expr)
  | not (inner : Expr)
  | contradiction
deriving DecidableEq, Repr, Inhabited

-- The deepest tree that is read from text, and the deepest that is compiled.
def maxDepth : Nat := 256

namespace Expr

def isContradiction : Expr → Bool
  | .contradiction => true
  | _ => false

def nodes : Expr → Nat
  | .and left right => 1 + left.nodes + right.nodes
  | .or left right => 1 + left.nodes + right.nodes
  | .not inner => 1 + inner.nodes
  | _ => 1

-- The number of levels; a leaf has one.
def height : Expr → Nat
  | .and left right => max left.height right.height + 1
  | .or left right => max left.height right.height + 1
  | .not inner => inner.height + 1
  | _ => 1

-- Filter text that reads as the same tree, up to the contradiction, which is written `false`.
def render : Expr → List Char
  | .literal b => (toString b).toList
  | .compare field op value =>
      field.name.toList ++ ' ' :: op.symbol.toList ++ ' ' :: value.render
  | .and left right => '(' :: left.render ++ " && ".toList ++ right.render ++ [')']
  | .or left right => '(' :: left.render ++ " || ".toList ++ right.render ++ [')']
  | .not inner => '!' :: inner.render
  | .contradiction => "false".toList

def text (e : Expr) : String := .ofList e.render

end Expr

end FilteredFeed.Filter
