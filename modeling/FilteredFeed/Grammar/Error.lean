namespace FilteredFeed.Grammar

-- Why a filter or a clause cannot be read. Positions count bytes.
inductive ReadError where
  | emptyExpression
  | unexpectedToken (token : String)
  | unexpectedEnd
  | unclosedParenthesis
  | unexpectedCharacter (character : Char) (position : Nat)
  | unterminatedString (position : Nat)
  | integerOutOfRange (literal : String)
  | tooDeep (max : Nat)
  | unknownField (name : String) (suggestion : Option String)
deriving DecidableEq, Repr

namespace ReadError

def message : ReadError → String
  | .emptyExpression => "filter expression is empty"
  | .unexpectedToken token => "unexpected token: " ++ token
  | .unexpectedEnd => "unexpected end of expression"
  | .unclosedParenthesis => "unclosed parenthesis"
  | .unexpectedCharacter character position =>
      "unexpected character '" ++ character.toString ++ "' at position " ++ toString position
  | .unterminatedString position =>
      "unterminated string starting at position " ++ toString position
  | .integerOutOfRange literal => "integer out of range: " ++ literal
  | .tooDeep max => "expression is nested more than " ++ toString max ++ " levels deep"
  | .unknownField name (some other) =>
      "unknown field: " ++ name ++ ". Did you mean '" ++ other ++ "'?"
  | .unknownField name none => "unknown field: " ++ name

end ReadError

end FilteredFeed.Grammar
