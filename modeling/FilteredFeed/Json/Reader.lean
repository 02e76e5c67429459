import FilteredFeed.Text.Letters

namespace FilteredFeed.Json

open FilteredFeed.Text

-- Why JSON text cannot be read: it ends too early, it is not JSON, or it is JSON of another shape
-- than the one wanted.
inductive ReadError where
  | endOfText
  | malformed
  | unfit
deriving DecidableEq, Repr

-- Values are read from the front of the text, and checked for their shape while they are read:
-- of several faults the first one counts.
abbrev Reader (α : Type) := List Char → Except ReadError (α × List Char)

def isSpace (c : Char) : Bool := c == ' ' || c == '\n' || c == '\t' || c == '\r'

def skipSpace (text : List Char) : List Char := text.dropWhile isSpace

-- The word that is left of `null`, `true` or `false` after its first letter.
def word : List Char → Reader Unit
  | [], text => .ok ((), text)
  | _ :: _, [] => .error .endOfText
  | c :: word', d :: text => if c = d then word word' text else .error .malformed

namespace Quotation

def isHexDigit (c : Char) : Bool :=
  c.isDigit || ('a' ≤ c && c ≤ 'f') || ('A' ≤ c && c ≤ 'F')

def hexDigit (c : Char) : Nat :=
  if c.isDigit then c.toNat - '0'.toNat
  else if c.isUpper then c.toNat - 'A'.toNat + 10
  else c.toNat - 'a'.toNat + 10

-- Four digits. The end comes too early only where there are not four bytes left.
def unit : Reader Nat
  | a :: b :: c :: d :: rest =>
      if [a, b, c, d].all isHexDigit then
        .ok (((hexDigit a * 16 + hexDigit b) * 16 + hexDigit c) * 16 + hexDigit d, rest)
      else .error .malformed
  | rest => if byteLength rest < 4 then .error .endOfText else .error .malformed

-- What a letter after a backslash stands for.
def simpleEscape? : Char → Option Char
  | '"' => some '"'
  | '\\' => some '\\'
  | '/' => some '/'
  | 'b' => some '\x08'
  | 'f' => some '\x0c'
  | 'n' => some '\n'
  | 'r' => some '\r'
  | 't' => some '\t'
  | _ => none

def isLead (n : Nat) : Bool := decide (0xD800 ≤ n ∧ n < 0xDC00)

def isTrail (n : Nat) : Bool := decide (0xDC00 ≤ n ∧ n < 0xE000)

-- The character of a `\u` escape, after its `u`. Two escapes make up a large character, and
-- neither can stand alone.
def unicodeEscape : Reader Char := fun text => do
  let (n, rest) ← unit text
  if isTrail n then throw .malformed
  else if isLead n then
    match rest with
    | [] => throw .endOfText
    | ['\\'] => throw .endOfText
    | '\\' :: 'u' :: rest =>
        let (m, rest) ← unit rest
        if isTrail m then return (Char.ofNat (0x10000 + (n - 0xD800) * 0x400 + (m - 0xDC00)), rest)
        else throw .malformed
    | _ => throw .malformed
  else return (Char.ofNat n, rest)

-- The text after an opening quote, up to the closing one. `room` bounds its characters.
def content : Nat → Reader (List Char)
  | 0, _ => .error .endOfText
  | room + 1, text =>
      match text with
      | [] => .error .endOfText
      | '"' :: rest => .ok ([], rest)
      | ['\\'] => .error .endOfText
      | '\\' :: 'u' :: rest => do
          let (c, rest) ← unicodeEscape rest
          let (cs, rest) ← content room rest
          return (c :: cs, rest)
      | '\\' :: e :: rest =>
          match simpleEscape? e with
          | some c => do
              let (cs, rest) ← content room rest
              return (c :: cs, rest)
          | none => .error .malformed
      | c :: rest =>
          if c.toNat < 0x20 then .error .malformed
          else do
            let (cs, rest) ← content room rest
            return (c :: cs, rest)

-- Text that is not wanted. Its escapes need not make up characters.
def skip : Nat → Reader Unit
  | 0, _ => .error .endOfText
  | room + 1, text =>
      match text with
      | [] => .error .endOfText
      | '"' :: rest => .ok ((), rest)
      | ['\\'] => .error .endOfText
      | '\\' :: 'u' :: rest => do
          let (_, rest) ← unit rest
          skip room rest
      | '\\' :: e :: rest => if (simpleEscape? e).isSome then skip room rest else .error .malformed
      | c :: rest => if c.toNat < 0x20 then .error .malformed else skip room rest

def read : Reader String := fun text => do
  let (cs, rest) ← content (text.length + 1) text
  return (.ofList cs, rest)

end Quotation

namespace Number

-- A number as far as it is told apart: an integer of 64 bits, or anything else.
inductive Kind where
  | integer (n : Int)
  | other
deriving DecidableEq, Repr

def maxWord : Nat := UInt64.size - 1

-- Digits are taken as long as they fit into 64 bits. The result has their value, how many there
-- were, and whether more are left.
def digits : Nat → Nat → List Char → Nat × Nat × List Char
  | value, taken, c :: rest =>
      if c.isDigit then
        let value' := 10 * value + (c.toNat - '0'.toNat)
        if maxWord < value' then (value, taken, c :: rest) else digits value' (taken + 1) rest
      else (value, taken, c :: rest)
  | value, taken, [] => (value, taken, [])

def skipDigits (text : List Char) : List Char := text.dropWhile Char.isDigit

-- Magnitudes that no double reaches are no numbers. The smallest double that would be rounded to
-- infinity lies half a step below 2^1024.
def isTooLarge (significand : Nat) (exponent : Int) : Bool :=
  if significand = 0 then false
  else if 308 < exponent then true
  else if exponent < 0 then false
  else decide (Nat.pow 2 1024 - Nat.pow 2 970 ≤ significand * Nat.pow 10 exponent.toNat)

def scaled (significand : Nat) (exponent : Int) (rest : List Char) :
    Except ReadError (Kind × List Char) :=
  if isTooLarge significand exponent then .error .malformed else .ok (.other, rest)

-- Exponents are counted as far as 32 bits go.
def maxExponent : Nat := Int32.maxValue.toInt.toNat

-- After the letter of an exponent.
def exponent (significand : Nat) (start : Int) (text : List Char) :
    Except ReadError (Kind × List Char) :=
  let (negative, text) :=
    match text with
    | '+' :: rest => (false, rest)
    | '-' :: rest => (true, rest)
    | rest => (false, rest)
  match text with
  | [] => .error .endOfText
  | c :: _ =>
      if !c.isDigit then .error .malformed
      else
        let n := (text.takeWhile Char.isDigit).foldl
          (fun n c => min (maxExponent + 1) (10 * n + (c.toNat - '0'.toNat))) 0
        let rest := skipDigits text
        if maxExponent < n then
          if significand ≠ 0 ∧ !negative then .error .malformed else .ok (.other, rest)
        else scaled significand (if negative then start - n else start + n) rest

-- After the point of a fraction.
def fraction (significand : Nat) (start : Int) (text : List Char) :
    Except ReadError (Kind × List Char) :=
  let (value, taken, rest) := digits significand 0 text
  if taken = 0 ∧ !rest.head?.any Char.isDigit then
    if rest.isEmpty then .error .endOfText else .error .malformed
  else
    let here := start - taken
    match skipDigits rest with
    | 'e' :: rest => exponent value here rest
    | 'E' :: rest => exponent value here rest
    | rest => scaled value here rest

-- A number after its sign.
def read (negative : Bool) (text : List Char) : Except ReadError (Kind × List Char) :=
  match text with
  | [] => .error .endOfText
  | c :: rest =>
      if !c.isDigit then .error .malformed
      else if c = '0' ∧ rest.head?.any Char.isDigit then .error .malformed
      else
        let (value, _, left) := digits 0 0 text
        let beyond := (left.takeWhile Char.isDigit).length
        match skipDigits left with
        | '.' :: rest => fraction value beyond rest
        | 'e' :: rest => exponent value beyond rest
        | 'E' :: rest => exponent value beyond rest
        | rest =>
            if beyond ≠ 0 then scaled value beyond rest
            else if !negative then .ok (.integer value, rest)
            else if value = 0 ∨ -(value : Int) < Int64.minValue.toInt then .ok (.other, rest)
            else .ok (.integer (-(value : Int)), rest)

-- A number that is not wanted. Its end is never too early, but only out of form.
def skip (text : List Char) : Except ReadError (Unit × List Char) :=
  match text with
  | [] => .error .malformed
  | c :: rest =>
      if !c.isDigit then .error .malformed
      else if c = '0' ∧ rest.head?.any Char.isDigit then .error .malformed
      else
        match skipDigits text with
        | '.' :: rest =>
            if rest.head?.any Char.isDigit then skipExponent (skipDigits rest)
            else .error .malformed
        | rest => skipExponent rest
where
  skipExponent (text : List Char) : Except ReadError (Unit × List Char) :=
    match text with
    | c :: rest =>
        if c = 'e' ∨ c = 'E' then
          let rest :=
            match rest with
            | '+' :: rest => rest
            | '-' :: rest => rest
            | rest => rest
          if rest.head?.any Char.isDigit then .ok ((), skipDigits rest) else .error .malformed
        else .ok ((), c :: rest)
    | [] => .ok ((), [])

end Number

-- A value of another kind than the one wanted. Simple values are read first, so that one that is
-- out of form is told apart from one that does not fit.
def mismatch (text : List Char) : ReadError :=
  let fails {α : Type} (read : Except ReadError α) : ReadError :=
    match read with
    | .ok _ => .unfit
    | .error e => e
  match text with
  | [] => .endOfText
  | 'n' :: rest => fails (word ['u', 'l', 'l'] rest)
  | 't' :: rest => fails (word ['r', 'u', 'e'] rest)
  | 'f' :: rest => fails (word ['a', 'l', 's', 'e'] rest)
  | '"' :: rest => fails (Quotation.read rest)
  | '[' :: _ => .unfit
  | '\x7b' :: _ => .unfit
  | '-' :: rest => fails (Number.read true rest)
  | c :: rest => if c.isDigit then fails (Number.read false (c :: rest)) else .malformed

def bool : Reader Bool := fun text =>
  match skipSpace text with
  | 't' :: rest => do return (true, (← word ['r', 'u', 'e'] rest).2)
  | 'f' :: rest => do return (false, (← word ['a', 'l', 's', 'e'] rest).2)
  | text => .error (mismatch text)

def string : Reader String := fun text =>
  match skipSpace text with
  | '"' :: rest => Quotation.read rest
  | text => .error (mismatch text)

-- A whole number up to a bound.
def natural (max : Nat) : Reader Nat := fun text =>
  let fit (read : Except ReadError (Number.Kind × List Char)) :
      Except ReadError (Nat × List Char) := do
    match ← read with
    | (.integer n, rest) => if 0 ≤ n ∧ n ≤ max then return (n.toNat, rest) else throw .unfit
    | _ => throw .unfit
  match skipSpace text with
  | '-' :: rest => fit (Number.read true rest)
  | c :: rest =>
      if c.isDigit then fit (Number.read false (c :: rest)) else .error (mismatch (c :: rest))
  | [] => .error .endOfText

-- A value or `null`.
def optional {α : Type} (reader : Reader α) : Reader (Option α) := fun text =>
  match skipSpace text with
  | 'n' :: rest => do return (none, (← word ['u', 'l', 'l'] rest).2)
  | text => do
      let (value, rest) ← reader text
      return (some value, rest)

-- A text that must make sense.
def decoded {α : Type} (decode : List Char → Option α) : Reader α := fun text => do
  let (s, rest) ← string text
  match decode s.toList with
  | some value => return (value, rest)
  | none => throw .unfit

-- What may stand before the next element of a list, in text after its opening bracket or after
-- an element: nothing if the list ends.
def nextElement (first : Bool) (text : List Char) : Except ReadError (Option (List Char)) :=
  match skipSpace text with
  | [] => .error .endOfText
  | ']' :: _ => .ok none
  | ',' :: rest =>
      if first then .ok (some (',' :: rest))
      else
        match skipSpace rest with
        | [] => .error .endOfText
        | ']' :: _ => .error .malformed
        | rest => .ok (some rest)
  | rest => if first then .ok (some rest) else .error .malformed

-- The end of a list of which no more is wanted.
def endList (text : List Char) : Except ReadError (List Char) :=
  match skipSpace text with
  | [] => .error .endOfText
  | ']' :: rest => .ok rest
  | _ => .error .malformed

-- The next key of an object and the text of its value.
def nextMember (first : Bool) (text : List Char) :
    Except ReadError (Option (String × List Char)) :=
  match skipSpace text with
  | [] => .error .endOfText
  | '\x7d' :: _ => .ok none
  | ',' :: rest =>
      if first then .error .malformed
      else
        match skipSpace rest with
        | [] => .error .endOfText
        | '"' :: rest => key rest
        | _ => .error .malformed
  | '"' :: rest => if first then key rest else .error .malformed
  | _ => .error .malformed
where
  key (text : List Char) : Except ReadError (Option (String × List Char)) := do
    let (name, rest) ← Quotation.read text
    match skipSpace rest with
    | [] => throw .endOfText
    | ':' :: rest => return some (name, rest)
    | _ => throw .malformed

def endObject (text : List Char) : Except ReadError (List Char) :=
  match skipSpace text with
  | [] => .error .endOfText
  | '\x7d' :: rest => .ok rest
  | _ => .error .malformed

-- Skips a value that is not wanted. `outer` has the closing brackets that are due, innermost
-- first, and `room` bounds the characters.
def skipValues : Nat → List Char → Reader Unit
  | 0, _, _ => .error .endOfText
  | room + 1, outer, text =>
      match skipSpace text with
      | [] => .error .endOfText
      | 'n' :: rest => do after room outer (← word ['u', 'l', 'l'] rest).2
      | 't' :: rest => do after room outer (← word ['r', 'u', 'e'] rest).2
      | 'f' :: rest => do after room outer (← word ['a', 'l', 's', 'e'] rest).2
      | '"' :: rest => do after room outer (← Quotation.skip (rest.length + 1) rest).2
      | '-' :: rest => do after room outer (← Number.skip rest).2
      | '[' :: rest =>
          match skipSpace rest with
          | [] => .error .endOfText
          | ']' :: rest => after room outer rest
          | rest => skipValues room (']' :: outer) rest
      | '\x7b' :: rest =>
          match skipSpace rest with
          | [] => .error .endOfText
          | '\x7d' :: rest => after room outer rest
          | rest => member room ('\x7d' :: outer) rest
      | c :: rest =>
          if c.isDigit then do after room outer (← Number.skip (c :: rest)).2
          else .error .malformed
where
  -- After a value.
  after (room : Nat) (outer : List Char) (text : List Char) :
      Except ReadError (Unit × List Char) :=
    match outer with
    | [] => .ok ((), text)
    | closing :: up =>
        match room with
        | 0 => .error .endOfText
        | room + 1 =>
            match skipSpace text with
            | [] => .error .endOfText
            | ',' :: rest =>
                if closing = '\x7d' then member room outer rest else skipValues room outer rest
            | c :: rest => if c = closing then after room up rest else .error .malformed
  -- Before a key.
  member (room : Nat) (outer : List Char) (text : List Char) :
      Except ReadError (Unit × List Char) :=
    match room with
    | 0 => .error .endOfText
    | room + 1 =>
        match skipSpace text with
        | [] => .error .endOfText
        | '"' :: rest => do
            let (_, rest) ← Quotation.skip (rest.length + 1) rest
            match skipSpace rest with
            | [] => throw .endOfText
            | ':' :: rest => skipValues room outer rest
            | _ => throw .malformed
        | _ => .error .malformed

-- Each character begins at most two of the steps.
def skipValue : Reader Unit := fun text => skipValues (2 * text.length + 2) [] text

-- Members and elements that make up a record of type `α`. A record is read from an object, of
-- which keys without a field are skipped, or from the list of its fields in their order.
structure Field (α : Type) where
  name : String
  read : α → Reader α
  required : Bool

-- A field whose value is read on its own, and then put into the record.
def Field.of {α β : Type} (name : String) (required : Bool) (reader : Reader β)
    (put : α → β → α) : Field α where
  name := name
  required := required
  read := fun record text => do
    let (value, rest) ← reader text
    return (put record value, rest)

namespace Record

variable {α : Type}

-- Fields of an object. A field must not come twice.
def members (fields : List (Field α)) : Nat → Bool → List String → α → Reader (List String × α)
  | 0, _, _, _, _ => .error .endOfText
  | room + 1, first, seen, record, text => do
      match ← nextMember first text with
      | none => return ((seen, record), text)
      | some (name, rest) =>
          match fields.find? (·.name == name) with
          | none =>
              let (_, rest) ← skipValue rest
              members fields room false seen record rest
          | some field =>
              if seen.contains name then throw .unfit
              else
                let (record, rest) ← field.read record rest
                members fields room false (name :: seen) record rest

-- Elements of a list. Those at the end may be missing, if they are not required.
def elements : List (Field α) → Bool → α → Reader α
  | [], _, record, text => .ok (record, text)
  | field :: fields, first, record, text => do
      match ← nextElement first text with
      | none =>
          if (field :: fields).any (·.required) then throw .unfit else return (record, text)
      | some rest =>
          let (record, rest) ← field.read record rest
          elements fields false record rest

def read (fields : List (Field α)) (start : α) : Reader α := fun text =>
  match skipSpace text with
  | [] => .error .endOfText
  | '[' :: rest => do
      let (record, rest) ← elements fields true start rest
      return (record, ← endList rest)
  | '\x7b' :: rest => do
      let ((seen, record), rest) ← members fields (rest.length + 1) true [] start rest
      if fields.any fun field => field.required && !seen.contains field.name then throw .unfit
      return (record, ← endObject rest)
  | text => .error (mismatch text)

end Record

-- The elements of a list, of which all are wanted. `room` bounds the characters.
def elements {α : Type} (element : Reader α) : Nat → Bool → Reader (List α)
  | 0, _, _ => .error .endOfText
  | room + 1, first, text => do
      match ← nextElement first text with
      | none => return ([], text)
      | some rest =>
          let (value, rest) ← element rest
          let (values, rest) ← elements element room false rest
          return (value :: values, rest)

def list {α : Type} (element : Reader α) : Reader (List α) := fun text =>
  match skipSpace text with
  | '[' :: rest => do
      let (values, rest) ← elements element (rest.length + 1) true rest
      return (values, ← endList rest)
  | text => .error (mismatch text)

-- Reads a whole text, after which nothing but space may come.
def parse {α : Type} (reader : Reader α) (text : String) : Except ReadError α := do
  let (value, rest) ← reader text.toList
  if (skipSpace rest).isEmpty then return value else throw .malformed

end FilteredFeed.Json
