import FilteredFeed.Filter.Token
import FilteredFeed.Grammar.Chain
import FilteredFeed.Text.EditDistance

namespace FilteredFeed.Filter

open FilteredFeed.Feed FilteredFeed.Grammar FilteredFeed.Text

def andOperator : Operator Token Expr := ⟨(· == .and), .and⟩

def orOperator : Operator Token Expr := ⟨(· == .or), .or⟩

-- `and` binds tighter than `or`.
def expression (operand : Reader Token Expr) : Reader Token Expr :=
  (operand.chain andOperator maxDepth).chain orOperator maxDepth

def negated (inner : Parsed Token Expr) : Except ReadError (Parsed Token Expr) := do
  return ⟨.not inner.tree, ← deeper maxDepth inner.height 0, inner.rest⟩

def fieldNamed (name : String) : Except ReadError Field :=
  match Field.ofName? name with
  | some field => .ok field
  | none => .error (.unknownField name (suggestion name Field.names))

def valueOf : Token → Except ReadError Value
  | .str text => .ok (.text text)
  | .int n => .ok (.integer n)
  | .bool b => .ok (.bool b)
  | .null => .ok .null
  | token => .error (.unexpectedToken token.describe)

-- What follows a field name. A field alone asks whether it is true.
def comparison (name : String) (tokens : List Token) :
    Except ReadError (Parsed Token Expr) := do
  let field ← fieldNamed name
  match tokens with
  | .compare op :: value :: rest => return .leaf (.compare field op (← valueOf value)) rest
  | [.compare _] => throw .unexpectedEnd
  | rest => return .leaf (.compare field (.relation .eq) (.bool true)) rest

-- An operand of the binary operators, in which at most `room` more levels of negation and
-- parentheses may be opened.
def unary (room : Nat) (tokens : List Token) : Except ReadError (Parsed Token Expr) :=
  match tokens with
  | .not :: rest =>
      match room with
      | 0 => .error (.tooDeep maxDepth)
      | room + 1 => do negated (← unary room rest)
  | .openParen :: rest =>
      match room with
      | 0 => .error (.tooDeep maxDepth)
      | room + 1 => do
          let inner ← expression (unary room) rest
          match inner.rest with
          | .closeParen :: rest => return { inner with rest }
          | _ => throw .unclosedParenthesis
  | .bool b :: rest => .ok (.leaf (.literal b) rest)
  | .ident name :: rest => comparison name rest
  | token :: _ => .error (.unexpectedToken token.describe)
  | [] => .error .unexpectedEnd

def Expr.ofTokens (tokens : List Token) : Except ReadError Expr := do
  let parsed ← expression (unary maxDepth) tokens
  match parsed.rest with
  | [] => return parsed.tree
  | token :: _ => throw (.unexpectedToken token.describe)

-- Reads filter text, without regard to blanks around it.
def Expr.parse (text : String) : Except ReadError Expr :=
  match trim text.toList with
  | [] => .error .emptyExpression
  | trimmed => do
      let tokens ← Token.scanFrom 0 trimmed
      Expr.ofTokens (tokens.map PositionedToken.token)

end FilteredFeed.Filter
