import FilteredFeed.Filter.Expr
import FilteredFeed.Grammar.Error
import FilteredFeed.Text.Letters
import FilteredFeed.Text.Quoted

namespace FilteredFeed.Filter

open FilteredFeed.Grammar FilteredFeed.Text

-- The words of filter text. A word that is no keyword is an `ident`.
inductive Token where
  | ident (name : String)
  | str (text : String)
  | int (value : Int64)
  | bool (value : Bool)
  | null
  | compare (op : CompareOp)
  | and
  | or
  | not
  | openParen
  | closeParen
deriving DecidableEq, Repr

namespace Token

-- A token the way its author may have written it, for messages.
def describe : Token → String
  | .ident name => name
  | .str text => Quoted.render text
  | .int value => .ofList (Decimal.ofInt64 value)
  | .bool value => toString value
  | .null => "null"
  | .compare op => op.symbol
  | .and => "&"
  | .or => "|"
  | .not => "!"
  | .openParen => "("
  | .closeParen => ")"

def keywords : List (String × Token) :=
  [("and", .and), ("or", .or), ("not", .not), ("true", .bool true), ("false", .bool false),
   ("null", .null), ("contains", .compare .contains), ("startswith", .compare .startsWith),
   ("endswith", .compare .endsWith), ("matches", .compare .matchesPattern)]

-- Keywords may be in any case. No letter outside ASCII has one of theirs for its lower case.
def ofWord (word : List Char) : Token :=
  match keywords.find? fun (keyword, _) => lower word == keyword.toList with
  | some (_, token) => token
  | none => .ident (.ofList word)

-- The characters up to a closing quote, and how many were read, the quote included. A backslash
-- takes away the meaning of a quote or backslash after it, and is itself kept before any other.
def readQuoted (quote : Char) : List Char → Option (List Char × Nat)
  | [] => none
  | c :: rest =>
      if c = quote then some ([], 1)
      else if c = '\\' then
        match rest with
        | [] => none
        | d :: rest =>
            (readQuoted quote rest).map fun (text, count) =>
              (if d = quote ∨ d = '\\' then d :: text else '\\' :: d :: text, count + 2)
      else (readQuoted quote rest).map fun (text, count) => (c :: text, count + 1)

-- Digits may be grouped with underscores.
def isDigitPart (c : Char) : Bool := c.isDigit || c == '_'

def ofDigits (sign : List Char) (digits : List Char) : Except ReadError Token :=
  let literal := sign ++ digits.filter Char.isDigit
  match Decimal.toInt64? literal with
  | some n => .ok (.int n)
  | none => .error (.integerOutOfRange (.ofList literal))

def followedBy (c : Char) (rest : List Char) (one two : Token) : Token × Nat :=
  if rest.head? = some c then (two, 1) else (one, 0)

-- The token that begins with `c`, and how many of the characters after it belong to it.
def lexeme (position : Nat) (c : Char) (rest : List Char) : Except ReadError (Token × Nat) :=
  match c with
  | '&' => .ok (followedBy '&' rest .and .and)
  | '|' => .ok (followedBy '|' rest .or .or)
  | '!' => .ok (followedBy '=' rest .not (.compare (.relation .ne)))
  | '=' => .ok (followedBy '=' rest (.compare (.relation .eq)) (.compare (.relation .eq)))
  | '<' => .ok (followedBy '=' rest (.compare (.relation .lt)) (.compare (.relation .le)))
  | '>' => .ok (followedBy '=' rest (.compare (.relation .gt)) (.compare (.relation .ge)))
  | '(' => .ok (.openParen, 0)
  | ')' => .ok (.closeParen, 0)
  | '-' =>
      if (rest.head?.any Char.isDigit) then do
        let digits := rest.takeWhile isDigitPart
        return (← ofDigits ['-'] digits, digits.length)
      else .error (.unexpectedCharacter '-' position)
  | _ =>
      if c = '"' ∨ c = '\'' then
        match readQuoted c rest with
        | some (text, count) => .ok (.str (.ofList text), count)
        | none => .error (.unterminatedString position)
      else if c.isDigit then do
        let digits := rest.takeWhile isDigitPart
        return (← ofDigits [] (c :: digits), digits.length)
      else if isWordStart c then
        let word := rest.takeWhile isWordPart
        .ok (ofWord (c :: word), word.length)
      else .error (.unexpectedCharacter c position)

end Token

structure PositionedToken where
  token : Token
  position : Nat
deriving DecidableEq, Repr

-- The tokens of a text whose first character is at `position`.
def Token.scanFrom (position : Nat) : List Char → Except ReadError (List PositionedToken)
  | [] => .ok []
  | c :: rest =>
      if isBlank c then scanFrom (position + c.utf8Size) rest
      else do
        let (token, count) ← lexeme position c rest
        let next := position + c.utf8Size + byteLength (rest.take count)
        let tokens ← scanFrom next (rest.drop count)
        return ⟨token, position⟩ :: tokens
termination_by text => text.length
decreasing_by
  all_goals simp only [List.length_cons, List.length_drop]; omega

theorem Token.scanFrom_nil (position : Nat) : scanFrom position [] = .ok [] := by
  unfold scanFrom
  rfl

theorem Token.scanFrom_cons (position : Nat) (c : Char) (rest : List Char) :
    scanFrom position (c :: rest) =
      if isBlank c then scanFrom (position + c.utf8Size) rest
      else do
        let (token, count) ← lexeme position c rest
        let next := position + c.utf8Size + byteLength (rest.take count)
        let tokens ← scanFrom next (rest.drop count)
        return ⟨token, position⟩ :: tokens := by
  conv => lhs; unfold scanFrom

def Token.scan (text : String) : Except ReadError (List PositionedToken) :=
  scanFrom 0 text.toList

end FilteredFeed.Filter
