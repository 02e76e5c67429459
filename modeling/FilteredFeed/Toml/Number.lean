import FilteredFeed.Feed.Instant
import FilteredFeed.Text.Decimal
import FilteredFeed.Toml.Quotation

namespace FilteredFeed.Toml

open FilteredFeed.Text

namespace Number

-- Digits with single underscores between them.
def digits (isDigit : Char → Bool) : Nat → Reader (List Char)
  | 0, _ => none
  | room + 1, text =>
      match text with
      | c :: rest =>
          if !isDigit c then none
          else
            match rest with
            | '_' :: more => do
                let (cs, rest) ← digits isDigit room more
                return (c :: cs, rest)
            | _ =>
                match digits isDigit room rest with
                | some (cs, rest) => some (c :: cs, rest)
                | none => if rest.head?.any isDigit then none else some ([c], rest)
      | [] => none

def decimals : Reader (List Char) := fun text => digits Char.isDigit (text.length + 1) text

-- Whole decimal numbers do not begin with a zero, except for zero itself.
def whole : Reader (List Char) := fun text => do
  let (ds, rest) ← decimals text
  if ds.head? = some '0' ∧ text.tail.head?.any (fun c => c.isDigit || c == '_') then none
  else return (ds, rest)

def sign : List Char → Option Bool × List Char
  | '+' :: rest => (some false, rest)
  | '-' :: rest => (some true, rest)
  | text => (none, text)

def ofDigits (base : Nat) (ds : List Char) : Nat :=
  ds.foldl (fun n c => base * n + Quotation.hexDigit c) 0

def integer (n : Int) (rest : List Char) : Option (Value × List Char) :=
  if Decimal.fitsInt64 n then some (.integer n, rest) else none

-- Whether a positive number is beyond all doubles, also after rounding.
def isTooLarge (significand : Nat) (exponent : Int) : Bool :=
  if significand = 0 then false
  else if 308 < exponent then true
  else if exponent < -400 - (Decimal.ofNat significand).length then false
  else if 0 ≤ exponent then
    decide (Nat.pow 2 1024 - Nat.pow 2 970 ≤ significand * Nat.pow 10 exponent.toNat)
  else decide ((Nat.pow 2 1024 - Nat.pow 2 970) * Nat.pow 10 (-exponent).toNat ≤ significand)

-- What follows the whole part of a float.
def fraction : Reader (List Char)
  | '.' :: rest => decimals rest
  | rest => some ([], rest)

def exponent (text : List Char) : Option (Int × List Char) :=
  match text with
  | c :: rest =>
      if c = 'e' ∨ c = 'E' then do
        let (negative, rest) := sign rest
        let (ds, rest) ← decimals rest
        let n : Int := ofDigits 10 ds
        return (if negative = some true then -n else n, rest)
      else some (0, text)
  | [] => some (0, [])

-- A decimal number: an integer, or a float if a point or an exponent follows.
def decimal (text : List Char) : Option (Value × List Char) := do
  let (negative, text) := sign text
  let (ds, rest) ← whole text
  if rest.head?.any fun c => c == '.' || c == 'e' || c == 'E' then
    let (fs, rest) ← fraction rest
    let (e, rest) ← exponent rest
    if negative ≠ some true ∧ isTooLarge (ofDigits 10 (ds ++ fs)) (e - fs.length) then none
    else return (.float, rest)
  else
    let n : Int := ofDigits 10 ds
    integer (if negative = some true then -n else n) rest

-- An integer to another base, after its letter.
def based (base : Nat) (isDigit : Char → Bool) (text : List Char) : Option (Value × List Char) := do
  let (ds, rest) ← digits isDigit (text.length + 1) text
  integer (ofDigits base ds) rest

def read (text : List Char) : Option (Value × List Char) :=
  match text with
  | '0' :: 'x' :: rest => based 16 Quotation.isHexDigit rest
  | '0' :: 'o' :: rest => based 8 (fun c => '0' ≤ c && c ≤ '7') rest
  | '0' :: 'b' :: rest => based 2 (fun c => c == '0' || c == '1') rest
  | _ =>
      match (sign text).2 with
      | 'i' :: 'n' :: 'f' :: rest => some (.float, rest)
      | 'n' :: 'a' :: 'n' :: rest => some (.float, rest)
      | _ => decimal text

end Number

namespace Moment

-- So many digits, for a number in a range.
def number (count low high : Nat) : Reader Nat := fun text =>
  let ds := text.take count
  if ds.length = count ∧ ds.all Char.isDigit then
    let n := Decimal.toNat ds
    if low ≤ n ∧ n ≤ high then some (n, text.drop count) else none
  else none

def date (text : List Char) : Option (List Char) := do
  let (year, rest) ← number 4 0 9999 text
  let rest ← expect '-' rest
  let (month, rest) ← number 2 1 12 rest
  let rest ← expect '-' rest
  let (_, rest) ← number 2 1 (Feed.Instant.daysInMonth year month) rest
  return rest

def time (text : List Char) : Option (List Char) := do
  let (_, rest) ← number 2 0 23 text
  let rest ← expect ':' rest
  let (_, rest) ← number 2 0 59 rest
  let rest ← expect ':' rest
  let (_, rest) ← number 2 0 60 rest
  match rest with
  | '.' :: rest => if rest.head?.any Char.isDigit then some (rest.dropWhile Char.isDigit) else none
  | rest => some rest

def offset (text : List Char) : Option (List Char) :=
  match text with
  | 'Z' :: rest => some rest
  | 'z' :: rest => some rest
  | c :: rest =>
      if c = '+' ∨ c = '-' then do
        let (_, rest) ← number 2 0 23 rest
        let rest ← expect ':' rest
        let (_, rest) ← number 2 0 59 rest
        return rest
      else some text
  | [] => some []

def isDelimiter (c : Char) : Bool := c == 'T' || c == 't' || c == ' '

-- Whether the text begins like a date or like a time of day.
def isDate (text : List Char) : Bool :=
  (text.take 4).all Char.isDigit && (text.drop 4).head? == some '-'

def isTime (text : List Char) : Bool :=
  (text.take 2).all Char.isDigit && (text.drop 2).head? == some ':'

-- A date, a time of day, or both, and then perhaps an offset.
def read (text : List Char) : Option (Value × List Char) :=
  if isDate text then do
    let rest ← date text
    if rest.head?.any isDelimiter && isTime rest.tail then
      return (.date, ← offset (← time rest.tail))
    else return (.date, rest)
  else do return (.date, ← time text)

end Moment

end FilteredFeed.Toml
