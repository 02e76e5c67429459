import FilteredFeed.Filter.Expr
import FilteredFeed.Grammar.Error
import FilteredFeed.Text.Letters
import FilteredFeed.Text.Quoted

namespace FilteredFeed.Clause

open FilteredFeed.Filter FilteredFeed.Grammar FilteredFeed.Text

-- The words of the clause language. Keywords are not set apart from names.
inductive Token where
  | word (name : String)
  | integer (n : Int64)
  | str (text : String)
  | op (rel : Relation)
  | openParen
  | closeParen
deriving DecidableEq, Repr

namespace Token

private def relationName : Relation → String
  | .eq => "Eq"
  | .ne => "Ne"
  | .lt => "Lt"
  | .le => "Le"
  | .gt => "Gt"
  | .ge => "Ge"

-- A token as messages show it, with its kind.
def describe : Token → String
  | .word name => "Word(" ++ Quoted.render name ++ ")"
  | .integer n => "Integer(" ++ .ofList (Decimal.ofInt64 n) ++ ")"
  | .str text => "Str(" ++ Quoted.render text ++ ")"
  | .op rel => "Op(" ++ relationName rel ++ ")"
  | .openParen => "OpenParen"
  | .closeParen => "CloseParen"

-- The characters up to a closing quote, and how many were read, the quote included. A quote
-- written twice stands for one.
def readQuoted : List Char → Option (List Char × Nat)
  | [] => none
  | '\'' :: '\'' :: rest => (readQuoted rest).map fun (text, count) => ('\'' :: text, count + 2)
  | c :: rest =>
      if c = '\'' then some ([], 1)
      else (readQuoted rest).map fun (text, count) => (c :: text, count + 1)

-- The token that begins with `c`, and how many of the characters after it belong to it.
def lexeme (position : Nat) (c : Char) (rest : List Char) : Except ReadError (Token × Nat) :=
  match c with
  | '(' => .ok (.openParen, 0)
  | ')' => .ok (.closeParen, 0)
  | '=' => .ok (.op .eq, 0)
  | '<' =>
      match rest with
      | '=' :: _ => .ok (.op .le, 1)
      | '>' :: _ => .ok (.op .ne, 1)
      | _ => .ok (.op .lt, 0)
  | '>' =>
      match rest with
      | '=' :: _ => .ok (.op .ge, 1)
      | _ => .ok (.op .gt, 0)
  | '\'' =>
      match readQuoted rest with
      | some (text, count) => .ok (.str (.ofList text), count)
      | none => .error (.unterminatedString position)
  | _ =>
      if c = '-' ∨ c.isDigit then
        let digits := rest.takeWhile Char.isDigit
        match Decimal.toInt64? (c :: digits) with
        | some n => .ok (.integer n, digits.length)
        | none => .error (.integerOutOfRange (.ofList (c :: digits)))
      else if isWordStart c then
        let word := rest.takeWhile isWordPart
        .ok (.word (.ofList (c :: word)), word.length)
      else .error (.unexpectedCharacter c position)

-- The tokens of a text whose first character is at `position`.
def scanFrom (position : Nat) : List Char → Except ReadError (List Token)
  | [] => .ok []
  | c :: rest =>
      if isBlank c then scanFrom (position + c.utf8Size) rest
      else do
        let (token, count) ← lexeme position c rest
        let next := position + c.utf8Size + byteLength (rest.take count)
        let tokens ← scanFrom next (rest.drop count)
        return token :: tokens
termination_by text => text.length
decreasing_by
  all_goals simp only [List.length_cons, List.length_drop]; omega

theorem scanFrom_nil (position : Nat) : scanFrom position [] = .ok [] := by
  unfold scanFrom
  rfl

theorem scanFrom_cons (position : Nat) (c : Char) (rest : List Char) :
    scanFrom position (c :: rest) =
      if isBlank c then scanFrom (position + c.utf8Size) rest
      else do
        let (token, count) ← lexeme position c rest
        let next := position + c.utf8Size + byteLength (rest.take count)
        let tokens ← scanFrom next (rest.drop count)
        return token :: tokens := by
  conv => lhs; unfold scanFrom

end Token

end FilteredFeed.Clause
