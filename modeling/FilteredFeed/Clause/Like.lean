namespace FilteredFeed.Clause

-- The parts of a pattern with wild cards.
inductive LikeToken where
  | anySequence
  | anyChar
  | literal (c : Char)
deriving DecidableEq, Repr

namespace LikeToken

-- The character after an escape stands for itself, and so does an escape at the end.
def ofPattern (escape : Option Char) : List Char → List LikeToken
  | [] => []
  | [c] =>
      if some c = escape then [.literal c]
      else if c = '%' then [.anySequence]
      else if c = '_' then [.anyChar]
      else [.literal c]
  | c :: d :: rest =>
      if some c = escape then .literal d :: ofPattern escape rest
      else if c = '%' then .anySequence :: ofPattern escape (d :: rest)
      else if c = '_' then .anyChar :: ofPattern escape (d :: rest)
      else .literal c :: ofPattern escape (d :: rest)

-- Matches from the left. Of the sequences only the last is remembered, by the pattern after it
-- and the text it had reached; where a token fails, that sequence takes one character more.
def matchFrom (pattern : List LikeToken) (text : List Char)
    (last : Option (List LikeToken × List Char)) : Bool :=
  match text, pattern with
  | [], pattern => pattern.all (· == .anySequence)
  | _ :: text, .anyChar :: pattern => matchFrom pattern text last
  | c :: text, .anySequence :: pattern =>
      matchFrom pattern (c :: text) (some (pattern, c :: text))
  | c :: text, .literal d :: pattern =>
      if d = c then matchFrom pattern text last
      else
        match last with
        | some (pattern, _ :: text) => matchFrom pattern text (some (pattern, text))
        | _ => false
  | _ :: _, [] =>
      match last with
      | some (pattern, _ :: text) => matchFrom pattern text (some (pattern, text))
      | _ => false
termination_by
  (match last with
    | none => text.length + 1
    | some (_, reached) => max text.length reached.length,
   text.length + pattern.length)
decreasing_by
  all_goals simp only [Prod.lex_def, List.length_cons]
  -- A retry takes a character from what the sequence had reached.
  any_goals
    left
    omega
  all_goals
    cases last with
    | none => simp
    | some rest => simp; omega

def isMatch (pattern : List LikeToken) (text : String) : Bool :=
  matchFrom pattern text.toList none

end LikeToken

end FilteredFeed.Clause
