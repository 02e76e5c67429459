import FilteredFeed.Text.CharSet

namespace FilteredFeed.Pattern

open FilteredFeed.Text (CharSet)

-- A condition on a place between two characters. `word` is the set of word characters.
inductive Anchor where
  | textStart
  | textEnd
  | lineStart
  | lineEnd
  | lineStartCrlf
  | lineEndCrlf
  | boundary (word : CharSet)
  | noBoundary (word : CharSet)
  | wordStart (word : CharSet)
  | wordEnd (word : CharSet)
  | wordStartHalf (word : CharSet)
  | wordEndHalf (word : CharSet)
deriving DecidableEq, Repr

-- `before` and `after` are the characters on both sides, if any.
def Anchor.holds (before after : Option Char) : Anchor → Bool
  | .textStart => before.isNone
  | .textEnd => after.isNone
  | .lineStart => before.all (· == '\n')
  | .lineEnd => after.all (· == '\n')
  | .lineStartCrlf =>
      before.all (· == '\n') || (before == some '\r' && after != some '\n')
  | .lineEndCrlf =>
      after.all (· == '\r') || (after == some '\n' && before != some '\r')
  | .boundary word => before.any word.contains != after.any word.contains
  | .noBoundary word => before.any word.contains == after.any word.contains
  | .wordStart word => !before.any word.contains && after.any word.contains
  | .wordEnd word => before.any word.contains && !after.any word.contains
  | .wordStartHalf word => !before.any word.contains
  | .wordEndHalf word => !after.any word.contains

-- A regular expression. Only whether a text matches is asked, so greed and groups are left out.
inductive Node where
  | empty
  | oneOf (set : CharSet)
  | anchor (condition : Anchor)
  | seq (first second : Node)
  | alt (left right : Node)
  | repeated (min : Nat) (max : Option Nat) (inner : Node)
deriving DecidableEq, Repr

namespace Node

def set? : Node → Option CharSet
  | .oneOf set => some set
  | _ => none

-- Sets of places in a text are numbers, whose bit `i` tells whether place `i` belongs to them.
-- Place `i` lies before character `i`.
abbrev Places := Nat

def placesWhere (length : Nat) (holds : Nat → Bool) : Places :=
  (List.range length).foldr (fun i places => if holds i then places ||| (1 <<< i) else places) 0

-- An expression with its sets and conditions evaluated on one text.
inductive Moves where
  | stay
  | step (places : Places)
  | check (places : Places)
  | seq (first second : Moves)
  | alt (left right : Moves)
  | repeated (min : Nat) (max : Option Nat) (inner : Moves)

def on (text : Array Char) : Node → Moves
  | .empty => .stay
  | .oneOf set => .step (placesWhere text.size fun i => text[i]?.any set.contains)
  | .anchor condition =>
      .check (placesWhere (text.size + 1) fun i =>
        condition.holds (if i = 0 then none else text[i - 1]?) text[i]?)
  | .seq first second => .seq (first.on text) (second.on text)
  | .alt left right => .alt (left.on text) (right.on text)
  | .repeated min max inner => .repeated min max (inner.on text)

-- Applies a step so many times, or until nothing changes any more.
def iterate (f : Places → Places) : Nat → Places → Places
  | 0, places => places
  | n + 1, places =>
      let next := f places
      if next = places then places else iterate f n next

-- Adds what can be reached in at most so many steps from `fresh`. Every place is left once:
-- `left` are those that were, and `fresh` is part of them.
def reach (f : Places → Places) : Nat → (left fresh reached : Places) → Places
  | 0, _, _, reached => reached
  | n + 1, left, fresh, reached =>
      if fresh = 0 then reached
      else
        let found := f fresh
        reach f n (left ||| found) ((left ||| found) ^^^ left) (reached ||| found)

-- The places where a match can end that starts at one of the given places. In a text of
-- `length` characters, more than `length` rounds of a repetition reach nothing new: one of the
-- rounds matches nothing, and can be left out or repeated.
def Moves.ends (length : Nat) : Moves → Places → Places
  | .stay, places => places
  | .step set, places => (places &&& set) <<< 1
  | .check set, places => places &&& set
  | .seq first second, places =>
      let middle := first.ends length places
      if middle = 0 then 0 else second.ends length middle
  | .alt left right, places => left.ends length places ||| right.ends length places
  | .repeated 0 max inner, places =>
      reach (inner.ends length) (Nat.min (max.getD (length + 1)) (length + 1)) places places places
  | .repeated (min + 1) max inner, places =>
      let before := iterate (inner.ends length) (Nat.min min (length + 1)) places
      let rounds := Nat.min ((max.getD (min + length + 1)) - min) (length + 1)
      reach (inner.ends length) rounds before before 0

-- Whether some part of the text matches.
def isMatch (node : Node) (text : String) : Bool :=
  let chars := text.toList.toArray
  let everywhere := (1 <<< (chars.size + 1)) - 1
  (node.on chars).ends chars.size everywhere != 0

end Node

end FilteredFeed.Pattern
