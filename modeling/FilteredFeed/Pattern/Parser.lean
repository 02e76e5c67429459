import FilteredFeed.Pattern.Parts
import FilteredFeed.Pattern.Size

namespace FilteredFeed.Pattern

open FilteredFeed.Text

-- Levels of groups, repetitions, brackets and lists that a pattern may have.
def maxNesting : Nat := 250

-- A part of a pattern and the number of its levels. What only sets flags cannot be repeated.
structure Part where
  node : Node
  depth : Nat
  setsFlags : Bool := false

namespace Part

def inSequence (parts : List Part) : Part :=
  match parts with
  | [] => ⟨.empty, 0, false⟩
  | [part] => ⟨part.node, part.depth, false⟩
  | part :: rest =>
      ⟨rest.foldl (fun node next => .seq node next.node) part.node,
        (parts.foldl (fun depth part => max depth part.depth) 0) + 1, false⟩

-- A choice between single characters is a set of characters.
def amongBranches (branches : List Part) : Part :=
  match branches with
  | [] => ⟨.empty, 0, false⟩
  | [part] => part
  | part :: rest =>
      let depth := (branches.foldl (fun depth part => max depth part.depth) 0) + 1
      match branches.mapM (·.node.set?) with
      | some sets => ⟨.oneOf (.unions sets), depth, false⟩
      | none => ⟨rest.foldl (fun node next => .alt node next.node) part.node, depth, false⟩

end Part

-- An open group: the parts read in the current branch and the branches before it, both newest
-- first, and the flags to go back to at its end.
structure OpenGroup where
  parts : List Part := []
  branches : List Part := []
  flagsAfter : Flags := {}

namespace OpenGroup

def push (group : OpenGroup) (part : Part) : OpenGroup :=
  { group with parts := part :: group.parts }

def nextBranch (group : OpenGroup) : OpenGroup :=
  { group with parts := [], branches := Part.inSequence group.parts.reverse :: group.branches }

def close (group : OpenGroup) : Part :=
  Part.amongBranches group.nextBranch.branches.reverse

-- Puts a repetition around the last part.
def repeatLast (group : OpenGroup) (min : Nat) (max : Option Nat) : Option OpenGroup :=
  match group.parts with
  | part :: parts =>
      if part.setsFlags then none
      else some { group with parts := ⟨.repeated min max part.node, part.depth + 1, false⟩ :: parts }
  | [] => none

end OpenGroup

namespace Flags

-- A character that stands for itself. Without Unicode, a byte must be ASCII.
def charNode (flags : Flags) (c : Char) (byte : Bool) : Option Node :=
  if !flags.unicode && byte && 0x80 ≤ c.toNat then none
  else if flags.ignoreCase && (flags.unicode || c.toNat < 0x80) then
    some (.oneOf (flags.close (.singleton c)))
  else some (.oneOf (.singleton c))

def dotNode (flags : Flags) : Option Node :=
  if !flags.unicode then none
  else if flags.dotNewline then some (.oneOf .all)
  else if flags.crlf then some (.oneOf (CharSet.ofChars ['\n', '\r']).compl)
  else some (.oneOf (CharSet.singleton '\n').compl)

def startNode (flags : Flags) : Node :=
  .anchor (if !flags.multiLine then .textStart else if flags.crlf then .lineStartCrlf
    else .lineStart)

def endNode (flags : Flags) : Node :=
  .anchor (if !flags.multiLine then .textEnd else if flags.crlf then .lineEndCrlf else .lineEnd)

def atomNode (flags : Flags) : Atom → Option Node
  | .char c byte => flags.charNode c byte
  | .members set => some (.oneOf set)
  | .anchor condition => some (.anchor condition)

end Flags

-- A decimal of 32 bits, with blanks around it.
private def count (spaced : Bool) (text : List Char) : Option Nat × Bool × List Char :=
  let (digits, rest) := digitsOf text.length (trimStart text)
  let rest := if spaced then skipBoth rest.length rest else trimStart rest
  if digits.isEmpty then (none, true, rest)
  else
    let n := Decimal.toNat digits
    (if n < UInt32.size then some n else none, false, rest)
where
  digitsOf : Nat → List Char → List Char × List Char
    | 0, text => ([], text)
    | room + 1, text =>
        match text with
        | c :: rest =>
            if c.isDigit then
              let (digits, rest) := digitsOf room (skipSpace spaced rest)
              (c :: digits, rest)
            else ([], text)
        | [] => ([], [])
  skipBoth : Nat → List Char → List Char
    | 0, text => text
    | room + 1, text =>
        match text with
        | c :: rest => if isBlank c then skipBoth room (skipSpace true rest) else text
        | [] => []

-- The bounds in the braces of a repetition, in text that begins with the opening brace.
private def bounds (spaced : Bool) (text : List Char) :
    Option (Nat × Option Nat × List Char) := do
  let (min, _, rest) := count spaced (← next? spaced text)
  let (min, max, rest) ←
    match rest with
    | ',' :: _ =>
        match ← next? spaced rest with
        | '\x7d' :: rest => some (← min, none, '\x7d' :: rest)
        | rest =>
            let (max, _, rest) := count spaced rest
            some (← min, some (← max), rest)
    | rest => some (← min, min, rest)
  match rest with
  | '\x7d' :: rest =>
      if max.any (· < min) then none
      else
        match skipSpace spaced rest with
        | '?' :: rest => some (min, max, rest)
        | rest => some (min, max, rest)
  | _ => none

-- After a repetition sign, a question mark makes it reluctant.
private def dropReluctance : List Char → List Char
  | '?' :: rest => rest
  | rest => rest

private def isNameChar (first : Bool) (c : Char) : Bool :=
  c == '_' || isLetter c || (!first && (c == '.' || c == '[' || c == ']' || isNumeral c))

-- The name of a group up to the closing angle.
private def groupName (text : List Char) : Option (List Char × List Char) :=
  let name := text.takeWhile (· != '>')
  match name, text.dropWhile (· != '>') with
  | first :: others, '>' :: rest =>
      if isNameChar true first && others.all (isNameChar false) then some (name, rest) else none
  | _, _ => none

structure Progress where
  group : OpenGroup := {}
  outer : List OpenGroup := []
  flags : Flags := {}
  names : List (List Char) := []

namespace Progress

private def enter (p : Progress) (flags : Flags) : Progress :=
  { p with group := { flagsAfter := p.flags }, outer := p.group :: p.outer, flags }

-- After an opening parenthesis.
private def openGroup (p : Progress) (text : List Char) : Option (Progress × List Char) :=
  match skipSpace p.flags.spaced text with
  | '?' :: '=' :: _ => none
  | '?' :: '!' :: _ => none
  | '?' :: '<' :: '=' :: _ => none
  | '?' :: '<' :: '!' :: _ => none
  | '?' :: 'P' :: '<' :: rest => named rest
  | '?' :: '<' :: rest => named rest
  | '?' :: rest => do
      let (flags, seen, rest) ← p.flags.read [] rest
      match rest with
      | ')' :: rest =>
          if seen.isEmpty then none
          else some ({ p with group := p.group.push ⟨.empty, 0, true⟩, flags }, rest)
      | _ => some (p.enter flags, rest.tail)
  | rest => some (p.enter p.flags, rest)
where
  named (text : List Char) : Option (Progress × List Char) := do
    let (name, rest) ← groupName text
    if p.names.contains name then none
    else some ({ p.enter p.flags with names := name :: p.names }, rest)

private def closeGroup (p : Progress) : Option Progress :=
  match p.outer with
  | [] => none
  | up :: outer =>
      let inner := p.group.close
      some { p with
        group := up.push ⟨inner.node, inner.depth + 1, false⟩
        outer
        flags := p.group.flagsAfter }

private def pushNode (p : Progress) (node : Node) : Progress :=
  { p with group := p.group.push ⟨node, 0, false⟩ }

-- Reads on to the end of the pattern. `room` bounds the number of characters.
def read : Nat → Progress → List Char → Option Progress
  | 0, _, _ => none
  | room + 1, p, text =>
      match skipSpace p.flags.spaced text with
      | [] => some p
      | '(' :: rest => do
          let (p, rest) ← p.openGroup rest
          read room p rest
      | ')' :: rest => do read room (← p.closeGroup) rest
      | '|' :: rest => read room { p with group := p.group.nextBranch } rest
      | '[' :: rest => do
          let (bracket, rest) ← Bracket.start p.flags.spaced ('[' :: rest)
          let (set, depth, rest) ← bracket.read p.flags (rest.length + 1) [] rest
          read room { p with group := p.group.push ⟨.oneOf set, depth, false⟩ } rest
      | '?' :: rest => do
          read room { p with group := ← p.group.repeatLast 0 (some 1) } (dropReluctance rest)
      | '*' :: rest => do
          read room { p with group := ← p.group.repeatLast 0 none } (dropReluctance rest)
      | '+' :: rest => do
          read room { p with group := ← p.group.repeatLast 1 none } (dropReluctance rest)
      | '\x7b' :: rest => do
          let (min, max, rest) ← bounds p.flags.spaced ('\x7b' :: rest)
          read room { p with group := ← p.group.repeatLast min max } rest
      | '.' :: rest => do read room (p.pushNode (← p.flags.dotNode)) rest
      | '^' :: rest => read room (p.pushNode p.flags.startNode) rest
      | '$' :: rest => read room (p.pushNode p.flags.endNode) rest
      | '\\' :: rest => do
          let (atom, rest) ← Atom.escaped p.flags rest
          read room (p.pushNode (← p.flags.atomNode atom)) rest
      | c :: rest => do read room (p.pushNode (← p.flags.charNode c false)) rest

end Progress

-- Why a pattern cannot be used.
inductive PatternError where
  | malformed
  | tooLarge
deriving DecidableEq, Repr

-- The reason why a pattern is malformed is not given.
def PatternError.message : PatternError → String
  | .malformed => "<regex error>"
  | .tooLarge => "Compiled regex exceeds size limit of " ++ toString maxSize ++ " bytes."

-- A pattern is read whole, with every group closed and not too many levels.
def parse? (text : String) : Option Node := do
  let chars := text.toList
  let p ← Progress.read (chars.length + 1) {} chars
  if !p.outer.isEmpty then none
  else
    let whole := p.group.close
    if maxNesting < whole.depth then none else some whole.node

def compile (text : String) : Except PatternError Node :=
  match parse? text with
  | none => .error .malformed
  | some node => if maxSize < searchSize + node.size then .error .tooLarge else .ok node

end FilteredFeed.Pattern
