import FilteredFeed.Pattern.Basic
import FilteredFeed.Pattern.Class
import FilteredFeed.Text.Decimal
import FilteredFeed.Text.Letters

namespace FilteredFeed.Pattern

open FilteredFeed.Text

-- What a group may switch on and off.
structure Flags where
  ignoreCase : Bool := false
  multiLine : Bool := false
  dotNewline : Bool := false
  crlf : Bool := false
  unicode : Bool := true
  spaced : Bool := false
deriving DecidableEq, Repr

namespace Flags

def letters : List Char := ['i', 'm', 's', 'R', 'u', 'x', 'U']

-- `U`, which makes repetitions reluctant, has no bearing on whether a text matches.
def set (flags : Flags) (letter : Char) (on : Bool) : Flags :=
  match letter with
  | 'i' => { flags with ignoreCase := on }
  | 'm' => { flags with multiLine := on }
  | 's' => { flags with dotNewline := on }
  | 'R' => { flags with crlf := on }
  | 'u' => { flags with unicode := on }
  | 'x' => { flags with spaced := on }
  | _ => flags

-- The letters before the end of a flag group, each at most once. Those after a dash are
-- switched off.
def read (flags : Flags) (seen : List Char) : List Char → Option (Flags × List Char × List Char)
  | [] => none
  | c :: rest =>
      if c = ':' ∨ c = ')' then
        if seen.head? = some '-' then none else some (flags, seen, c :: rest)
      else if seen.contains c || !(letters.contains c || c == '-') then none
      else read (if c = '-' then flags else flags.set c !(seen.contains '-')) (c :: seen) rest

def wordChars (flags : Flags) : CharSet :=
  if flags.unicode then Class.wordChars else Class.asciiWordChars

def close (flags : Flags) (s : CharSet) : CharSet :=
  if !flags.ignoreCase then s
  else if flags.unicode then Unicode.CaseFold.close s
  else Class.closeAscii s

-- Without Unicode, classes are made of bytes, and none may hold part of a longer character.
def negate (flags : Flags) (s : CharSet) : Option CharSet :=
  if flags.unicode then some s.compl else none

def foldAndNegate (flags : Flags) (negated : Bool) (s : CharSet) : Option CharSet :=
  if negated then flags.negate (flags.close s) else some (flags.close s)

end Flags

-- In spaced patterns, blanks and comments to the end of the line mean nothing.
def skipSpace (spaced : Bool) (text : List Char) : List Char :=
  if spaced then go false text else text
where
  go (inComment : Bool) : List Char → List Char
    | [] => []
    | c :: rest =>
        if inComment then go (c != '\n') rest
        else if isBlank c then go false rest
        else if c = '#' then go true rest
        else c :: rest

-- What follows the first character and the space after it, if anything does.
def next? (spaced : Bool) (text : List Char) : Option (List Char) :=
  match skipSpace spaced text.tail with
  | [] => none
  | rest => some rest

-- The character to come after the first, seen through space. A comment hides only its mark.
def peekSpaced (spaced : Bool) (text : List Char) : Option Char :=
  if spaced then
    match go false text.tail with
    | some c => some c
    | none => text.tail.head?
  else text.tail.head?
where
  go (inComment : Bool) : List Char → Option Char
    | [] => none
    | c :: rest =>
        if isBlank c then go inComment rest
        else if !inComment && c = '#' then go true rest
        else some c

-- The smallest parts: what an escape or a single character stands for. `byte` tells a character
-- that was given as a byte of two digits.
inductive Atom where
  | char (c : Char) (byte : Bool)
  | members (set : CharSet)
  | anchor (condition : Anchor)
deriving DecidableEq, Repr

namespace Atom

def isHexDigit (c : Char) : Bool :=
  c.isDigit || ('a' ≤ c && c ≤ 'f') || ('A' ≤ c && c ≤ 'F')

def hexValue (digits : List Char) : Nat :=
  digits.foldl (fun n c =>
    16 * n + (if c.isDigit then c.toNat - '0'.toNat else c.toLower.toNat - 'a'.toNat + 10)) 0

def charOfHex (digits : List Char) : Option Char :=
  let code := hexValue digits
  if h : code.isValidChar then some ⟨code.toUInt32, by
    have hlt : code < UInt32.size := by
      unfold Nat.isValidChar at h; simp only [UInt32.size]; omega
    simpa [UInt32.isValidChar, UInt32.toNat_ofNat_of_lt' hlt, Nat.toUInt32] using h⟩
  else none

-- Hexadecimal digits up to a closing brace, in text that begins with the opening one.
def hexInBraces (spaced : Bool) : Nat → List Char → List Char → Option (List Char × List Char)
  | 0, _, _ => none
  | room + 1, digits, text => do
      match ← next? spaced text with
      | '\x7d' :: rest => some (digits.reverse, '\x7d' :: rest)
      | c :: rest => if isHexDigit c then hexInBraces spaced room (c :: digits) (c :: rest) else none
      | [] => none

def hexDigits (spaced : Bool) : Nat → List Char → Option (List Char × List Char)
  | 0, text => some ([], text)
  | count + 1, c :: rest =>
      if isHexDigit c then do
        let (digits, rest) ← hexDigits spaced count (skipSpace spaced rest)
        some (c :: digits, rest)
      else none
  | _ + 1, [] => none

-- After `\x`, `\u` or `\U`: so many digits, or any number of them in braces.
def hex (spaced : Bool) (kind : Char) (text : List Char) : Option (Atom × List Char) := do
  let text ← next? spaced (kind :: text)
  match text with
  | '\x7b' :: _ =>
      let (digits, rest) ← hexInBraces spaced text.length [] text
      if digits.isEmpty then none
      else some (.char (← charOfHex digits) false, skipSpace spaced rest.tail)
  | _ =>
      let width := if kind = 'x' then 2 else if kind = 'u' then 4 else 8
      let (digits, rest) ← hexDigits spaced width text
      some (.char (← charOfHex digits) (kind = 'x'), rest)

-- The name in the braces of a class.
def nameInBraces (spaced : Bool) : Nat → List Char → List Char → Option (List Char × List Char)
  | 0, _, _ => none
  | room + 1, name, text => do
      match ← next? spaced text with
      | '\x7d' :: rest => some (name.reverse, rest)
      | c :: rest => nameInBraces spaced room (c :: name) (c :: rest)
      | [] => none

def splitAt (mark name : List Char) : Option (List Char × List Char) :=
  match name with
  | [] => none
  | c :: rest =>
      if mark.isPrefixOf (c :: rest) then some ([], (c :: rest).drop mark.length)
      else (splitAt mark rest).map fun (a, b) => (c :: a, b)

-- A class by name, and whether the way it is written negates it.
def classNamed (name : List Char) : Option (CharSet × Bool) :=
  match splitAt ['!', '='] name with
  | some (property, value) => (Class.valued? property value).map (·, true)
  | none =>
      match (splitAt [':'] name).orElse fun _ => splitAt ['='] name with
      | some (property, value) => (Class.valued? property value).map (·, false)
      | none => (Class.named? name).map (·, false)

-- After `\p` or `\P`.
def unicodeClass (flags : Flags) (negated : Bool) (text : List Char) :
    Option (Atom × List Char) := do
  if !flags.unicode then none
  let text ← next? flags.spaced ('p' :: text)
  let (name, rest) ←
    match text with
    | '\x7b' :: _ => nameInBraces flags.spaced text.length [] text
    | '\\' :: _ => none
    | c :: rest => some ([c], skipSpace flags.spaced rest)
    | [] => none
  let (set, differs) ← classNamed name
  some (.members (← flags.foldAndNegate (negated != differs) set), rest)

def simpleClass (flags : Flags) (letter : Char) : Option CharSet :=
  let set :=
    match letter.toLower with
    | 'd' => if flags.unicode then Class.digits else Class.asciiDigits
    | 's' => if flags.unicode then Class.blanks else Class.asciiBlanks
    | _ => flags.wordChars
  if letter.isUpper then flags.negate set else some set

def isMeta (c : Char) : Bool :=
  ['\\', '.', '+', '*', '?', '(', ')', '|', '[', ']', '\x7b', '\x7d', '^', '$', '#', '&', '-',
    '~'].contains c

-- ASCII that has no meaning of its own may be escaped, letters, digits and angles apart.
def isEscapable (c : Char) : Bool :=
  isMeta c || (c.toNat < 0x80 && !c.isAlphanum && c != '<' && c != '>')

-- The letters in braces after `\b`. Anything else there is left to be a repetition.
def boundaryName (spaced : Bool) : Nat → List Char → List Char → List Char × List Char
  | 0, name, text => (name.reverse, text)
  | room + 1, name, text =>
      match text with
      | c :: rest =>
          if c.isAlpha || c == '-' then boundaryName spaced room (c :: name) (skipSpace spaced rest)
          else (name.reverse, text)
      | [] => (name.reverse, [])

def boundary (flags : Flags) (text : List Char) : Option (Atom × List Char) := do
  let word := flags.wordChars
  match text with
  | '\x7b' :: _ =>
      match ← next? flags.spaced text with
      | c :: rest =>
          if c.isAlpha || c == '-' then
            match boundaryName flags.spaced (c :: rest).length [] (c :: rest) with
            | (name, '\x7d' :: rest) =>
                if name = "start".toList then some (.anchor (.wordStart word), rest)
                else if name = "end".toList then some (.anchor (.wordEnd word), rest)
                else if name = "start-half".toList then some (.anchor (.wordStartHalf word), rest)
                else if name = "end-half".toList then some (.anchor (.wordEndHalf word), rest)
                else none
            | _ => none
          else some (.anchor (.boundary word), text)
      | [] => none
  | _ => some (.anchor (.boundary word), text)

-- After a backslash.
def escaped (flags : Flags) : List Char → Option (Atom × List Char)
  | [] => none
  | c :: rest =>
      if c = 'x' ∨ c = 'u' ∨ c = 'U' then hex flags.spaced c rest
      else if c = 'p' ∨ c = 'P' then unicodeClass flags (c = 'P') rest
      else if ['d', 's', 'w', 'D', 'S', 'W'].contains c then
        (simpleClass flags c).map fun set => (.members set, rest)
      else if isEscapable c then some (.char c false, rest)
      else match c with
        | 'a' => some (.char '\x07' false, rest)
        | 'f' => some (.char '\x0c' false, rest)
        | 't' => some (.char '\t' false, rest)
        | 'n' => some (.char '\n' false, rest)
        | 'r' => some (.char '\r' false, rest)
        | 'v' => some (.char '\x0b' false, rest)
        | 'A' => some (.anchor .textStart, rest)
        | 'z' => some (.anchor .textEnd, rest)
        | 'b' => boundary flags rest
        | 'B' => some (.anchor (.noBoundary flags.wordChars), rest)
        | '<' => some (.anchor (.wordStart flags.wordChars), rest)
        | '>' => some (.anchor (.wordEnd flags.wordChars), rest)
        | _ => none

end Atom

-- Classes in brackets.
inductive SetOperator where
  | inter
  | diff
  | symmDiff
deriving DecidableEq, Repr

def SetOperator.apply : SetOperator → CharSet → CharSet → CharSet
  | .inter => CharSet.inter
  | .diff => CharSet.diff
  | .symmDiff => CharSet.symmDiff

-- An open bracket: the operand before the last operator, and the members read since, with
-- their number and the depth of the deepest.
structure Bracket where
  negated : Bool
  before : Option (SetOperator × CharSet × Nat) := none
  members : CharSet := .empty
  count : Nat := 0
  depth : Nat := 0

namespace Bracket

def add (b : Bracket) (set : CharSet) (depth : Nat) : Bracket :=
  { b with members := b.members.union set, count := b.count + 1, depth := max b.depth depth }

-- The set so far, and its depth.
def value (flags : Flags) (b : Bracket) : CharSet × Nat :=
  let depth := if b.count ≤ 1 then b.depth else b.depth + 1
  match b.before with
  | none => (b.members, depth)
  | some (operator, left, leftDepth) =>
      (operator.apply (flags.close left) (flags.close b.members), max leftDepth depth + 1)

def operator (flags : Flags) (b : Bracket) (op : SetOperator) : Bracket :=
  let (set, depth) := b.value flags
  { negated := b.negated, before := some (op, set, depth) }

def close (flags : Flags) (b : Bracket) : Option (CharSet × Nat) := do
  let (set, depth) := b.value flags
  some (← flags.foldAndNegate b.negated set, depth + 1)

-- Dashes that come first are members, and so is a closing bracket that does.
private def leading (spaced : Bool) : Nat → Bracket → List Char → Option (Bracket × List Char)
  | 0, _, _ => none
  | room + 1, b, text =>
      match text with
      | '-' :: _ => do leading spaced room (b.add (.singleton '-') 0) (← next? spaced text)
      | ']' :: _ =>
          if b.count = 0 then do some (b.add (.singleton ']') 0, ← next? spaced text)
          else some (b, text)
      | _ => some (b, text)

-- Text that begins with an opening bracket.
def start (spaced : Bool) (text : List Char) : Option (Bracket × List Char) := do
  let text ← next? spaced text
  match text with
  | '^' :: _ => leading spaced text.length ⟨true, none, .empty, 0, 0⟩ (← next? spaced text)
  | _ => leading spaced (text.length + 1) ⟨false, none, .empty, 0, 0⟩ text

-- A class written `[:name:]`, after its first bracket, and whether it is negated.
private def posix : List Char → Option (CharSet × Bool × List Char)
  | ':' :: text => do
      let (negated, text) :=
        match text with
        | '^' :: text => (true, text)
        | text => (false, text)
      let name := text.takeWhile (· != ':')
      match text.dropWhile (· != ':') with
      | ':' :: ']' :: rest =>
          let set ← Class.posix? (.ofList name)
          some (set, negated, rest)
      | _ => none
  | _ => none

private def item (flags : Flags) : List Char → Option (Atom × List Char)
  | '\\' :: rest => Atom.escaped flags rest
  | c :: rest => some (.char c false, rest)
  | [] => none

-- Without Unicode, only ASCII can be a member.
private def literal (flags : Flags) : Atom → Option Char
  | .char c _ => if flags.unicode || c.toNat < 0x80 then some c else none
  | _ => none

private def single (flags : Flags) : Atom → Option CharSet
  | .char c byte => (literal flags (.char c byte)).map CharSet.singleton
  | .members set => some set
  | .anchor _ => none

-- One member or a range of them.
private def member (flags : Flags) (text : List Char) : Option (CharSet × List Char) := do
  let (first, rest) ← item flags text
  let rest := skipSpace flags.spaced rest
  match rest with
  | [] => none
  | '-' :: _ =>
      let ahead := peekSpaced flags.spaced rest
      if ahead = some ']' ∨ ahead = some '-' then some (← single flags first, rest)
      else
        let (last, rest) ← item flags (← next? flags.spaced rest)
        let lo ← literal flags first
        let hi ← literal flags last
        if lo ≤ hi then some (.range lo.toNat hi.toNat, rest) else none
  | _ => some (← single flags first, rest)

-- The text up to the end of the outermost of the open brackets. The result is the set and its
-- depth. `room` bounds the number of characters.
def read (flags : Flags) : Nat → Bracket → List Bracket → List Char →
    Option (CharSet × Nat × List Char)
  | 0, _, _, _ => none
  | room + 1, b, outer, text =>
      match skipSpace flags.spaced text with
      | [] => none
      | ']' :: rest => do
          let (set, depth) ← b.close flags
          match outer with
          | [] => some (set, depth, rest)
          | up :: outer => read flags room (up.add set depth) outer rest
      | '&' :: '&' :: rest => read flags room (b.operator flags .inter) outer rest
      | '-' :: '-' :: rest => read flags room (b.operator flags .diff) outer rest
      | '~' :: '~' :: rest => read flags room (b.operator flags .symmDiff) outer rest
      | '[' :: rest =>
          match posix rest with
          | some (set, negated, rest) => do
              read flags room (b.add (← flags.foldAndNegate negated set) 0) outer rest
          | none => do
              let (inner, rest) ← start flags.spaced ('[' :: rest)
              read flags room inner (b :: outer) rest
      | text => do
          let (set, rest) ← member flags text
          read flags room (b.add set 0) outer rest

end Bracket

end FilteredFeed.Pattern
