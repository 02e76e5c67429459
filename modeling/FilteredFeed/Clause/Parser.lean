import FilteredFeed.Clause.Basic
import FilteredFeed.Clause.Token
import FilteredFeed.Grammar.Chain
import FilteredFeed.Text.EditDistance

namespace FilteredFeed.Clause

open FilteredFeed.Feed FilteredFeed.Filter FilteredFeed.Grammar FilteredFeed.Text

variable [Patterns]

-- The deepest clause that is read. A compiled filter nests at most twice as deep as the filter,
-- since every negation also stands in parentheses.
def maxClauseDepth : Nat := 2 * maxDepth + 8

namespace Token

def isKeyword (keyword : String) : Token → Bool
  | .word name => sameWord name keyword
  | _ => false

end Token

def andOperator : Operator Token Condition := ⟨Token.isKeyword "AND", .and⟩

def orOperator : Operator Token Condition := ⟨Token.isKeyword "OR", .or⟩

def expression (operand : Reader Token Condition) : Reader Token Condition :=
  (operand.chain andOperator maxClauseDepth).chain orOperator maxClauseDepth

-- Where a certain token was wanted and another, or none, is there.
def unexpected : List Token → ReadError
  | token :: _ => .unexpectedToken token.describe
  | [] => .unexpectedEnd

-- A clause in parentheses is read by `nested`, which is absent where no more may be opened.
def operand (nested : Option (Reader Token Condition)) : Reader Token Condition
  | .openParen :: rest =>
      match nested with
      | none => .error (.tooDeep maxClauseDepth)
      | some nested => do
          let inner ← nested rest
          match inner.rest with
          | .closeParen :: rest => return { inner with rest }
          | _ => throw .unclosedParenthesis
  | .integer n :: rest => .ok (.leaf (.integer n) rest)
  | .str s :: rest => .ok (.leaf (.text s) rest)
  | .word name :: rest =>
      if sameWord name "NULL" then .ok (.leaf .null rest)
      else
        match Field.ofName? name with
        | some field => .ok (.leaf (.column field) rest)
        | none => .error (.unknownField name (suggestion name Field.names))
  | tokens => .error (unexpected tokens)

-- A node over one child.
def wrap (node : Condition → Condition) (child : Parsed Token Condition) (rest : List Token) :
    Except ReadError (Parsed Token Condition) := do
  return ⟨node child.tree, ← deeper maxClauseDepth child.height 0, rest⟩

def stringAfter : List Token → Except ReadError (String × List Token)
  | .str s :: rest => .ok (s, rest)
  | tokens => .error (unexpected tokens)

-- The character after `ESCAPE`, if that follows.
def escapeAfter : List Token → Except ReadError (Option Char × List Token)
  | token :: rest =>
      if token.isKeyword "ESCAPE" then do
        let (escape, rest) ← stringAfter rest
        match escape.toList with
        | [c] => return (some c, rest)
        | _ => throw (.unexpectedToken ("ESCAPE '" ++ escape ++ "'"))
      else .ok (none, token :: rest)
  | [] => .ok (none, [])

-- What may follow an operand, once.
def suffix (operand : Reader Token Condition) (left : Parsed Token Condition) :
    Except ReadError (Parsed Token Condition) :=
  match left.rest with
  | .op rel :: rest => do
      let right ← operand rest
      return ⟨.compare left.tree rel right.tree,
        ← deeper maxClauseDepth left.height right.height, right.rest⟩
  | token :: rest =>
      if token.isKeyword "IS" then
        let (negated, rest) :=
          match rest with
          | token :: rest' => if token.isKeyword "NOT" then (true, rest') else (false, rest)
          | [] => (false, [])
        match rest with
        | token :: rest' =>
            if token.isKeyword "NULL" then wrap (.isNull · negated) left rest'
            else .error (unexpected rest)
        | [] => .error .unexpectedEnd
      else if token.isKeyword "LIKE" then do
        let (pattern, rest) ← stringAfter rest
        let (escape, rest) ← escapeAfter rest
        wrap (.like · (LikeToken.ofPattern escape pattern.toList)) left rest
      else if token.isKeyword "REGEXP" then do
        let (pattern, rest) ← stringAfter rest
        match Patterns.compile pattern with
        | .ok matcher => wrap (.regexp · matcher) left rest
        | .error reason =>
            throw (.unexpectedToken ("REGEXP pattern '" ++ pattern ++ "': " ++ reason))
      else .ok left
  | [] => .ok left

def comparison (operand : Reader Token Condition) : Reader Token Condition :=
  fun tokens => do suffix operand (← operand tokens)

-- An operand of the binary connectives, in which at most `room` more levels of negation and
-- parentheses may be opened.
def unary : Nat → Reader Token Condition
  | 0, tokens =>
      match tokens with
      | token :: _ =>
          if token.isKeyword "NOT" then .error (.tooDeep maxClauseDepth)
          else comparison (operand none) tokens
      | [] => comparison (operand none) tokens
  | room + 1, tokens =>
      match tokens with
      | token :: rest =>
          if token.isKeyword "NOT" then do
            let inner ← unary room rest
            wrap .not inner inner.rest
          else comparison (operand (some (expression (unary room)))) tokens
      | [] => comparison (operand none) tokens

def Condition.ofTokens (tokens : List Token) : Except ReadError Condition := do
  if tokens.isEmpty then throw .emptyExpression
  let parsed ← expression (unary maxClauseDepth) tokens
  match parsed.rest with
  | [] => return parsed.tree
  | token :: _ => throw (.unexpectedToken token.describe)

def Condition.parse (text : String) : Except ReadError Condition := do
  Condition.ofTokens (← Token.scanFrom 0 text.toList)

end FilteredFeed.Clause
