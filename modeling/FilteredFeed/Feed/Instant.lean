import FilteredFeed.Text.Decimal
import FilteredFeed.Text.Letters

namespace FilteredFeed.Feed

open FilteredFeed.Text

-- A point in time: whole seconds since the start of 1970, rounded down, and nanoseconds.
-- A leap second repeats the second before it, with the nanoseconds going on past 10^9.
structure Instant where
  seconds : Int
  nanos : Nat
deriving DecidableEq, Repr, Inhabited

namespace Instant

def epoch : Instant := ⟨0, 0⟩

def isLeapYear (year : Int) : Bool :=
  year.emod 4 == 0 && (year.emod 100 != 0 || year.emod 400 == 0)

def daysInMonth (year : Int) (month : Nat) : Nat :=
  if month = 2 then if isLeapYear year then 29 else 28
  else if month = 4 ∨ month = 6 ∨ month = 9 ∨ month = 11 then 30
  else 31

-- Days from the start of 1970 to a date, in years that begin with March, so that the leap day
-- comes last. 400 years have 146097 days.
def daysOfDate (year : Int) (month day : Nat) : Int :=
  let y := if month ≤ 2 then year - 1 else year
  let era := y.fdiv 400
  let yearOfEra := y - era * 400
  let shifted : Int := if month ≤ 2 then month + 9 else month - 3
  let dayOfYear := (153 * shifted + 2) / 5 + day - 1
  let dayOfEra := yearOfEra * 365 + yearOfEra / 4 - yearOfEra / 100 + dayOfYear
  era * 146097 + dayOfEra - 719468

def dateOfDays (days : Int) : Int × Nat × Nat :=
  let z := days + 719468
  let era := z.fdiv 146097
  let dayOfEra := z - era * 146097
  let yearOfEra := (dayOfEra - dayOfEra / 1460 + dayOfEra / 36524 - dayOfEra / 146096) / 365
  let dayOfYear := dayOfEra - (365 * yearOfEra + yearOfEra / 4 - yearOfEra / 100)
  let shifted := (5 * dayOfYear + 2) / 153
  let day := dayOfYear - (153 * shifted + 2) / 5 + 1
  let month := if shifted < 10 then shifted + 3 else shifted - 9
  let year := yearOfEra + era * 400 + (if month ≤ 2 then 1 else 0)
  (year, month.toNat, day.toNat)

-- Calendar years go as far as this.
def minYear : Int := -262143
def maxYear : Int := 262142

def isInCalendar (seconds : Int) : Bool :=
  decide (daysOfDate minYear 1 1 * 86400 ≤ seconds ∧
    seconds < daysOfDate (maxYear + 1) 1 1 * 86400)

-- Digits with zeros put in front.
def padded (width : Nat) (n : Nat) : List Char :=
  let digits := Decimal.ofNat n
  List.replicate (width - digits.length) '0' ++ digits

-- Fractions have as many groups of three digits as they need.
def fraction (nanos : Nat) : List Char :=
  if nanos = 0 then []
  else if nanos % 1000000 = 0 then '.' :: padded 3 (nanos / 1000000)
  else if nanos % 1000 = 0 then '.' :: padded 6 (nanos / 1000)
  else '.' :: padded 9 nanos

def yearText (year : Int) : List Char :=
  if 0 ≤ year ∧ year ≤ 9999 then padded 4 year.natAbs
  else (if year < 0 then '-' else '+') :: padded 4 year.natAbs

-- The universal time, in the form of RFC 3339.
def render (t : Instant) : List Char :=
  let days := t.seconds.fdiv 86400
  let time := (t.seconds - days * 86400).toNat
  let (year, month, day) := dateOfDays days
  let leap := decide (1000000000 ≤ t.nanos)
  let second := if leap then time % 60 + 1 else time % 60
  let nanos := if leap then t.nanos - 1000000000 else t.nanos
  yearText year ++ '-' :: padded 2 month ++ '-' :: padded 2 day ++ 'T' :: padded 2 (time / 3600) ++
    ':' :: padded 2 (time / 60 % 60) ++ ':' :: padded 2 second ++ fraction nanos ++ ['Z']

namespace Read

-- Readers take what they need from the front of the text and return the rest.
def number (min max : Nat) (text : List Char) : Option (Nat × List Char) :=
  let digits := (text.take max).takeWhile Char.isDigit
  if digits.length < min then none else some (Decimal.toNat digits, text.drop digits.length)

def field (width : Nat) (text : List Char) : Option (Nat × List Char) :=
  number 1 width (trimStart text)

def separator (c : Char) (text : List Char) : Option (List Char) :=
  match trimStart text with
  | d :: rest => if d = c then some rest else none
  | [] => none

def year (text : List Char) : Option (Int × List Char) :=
  match trimStart text with
  | '-' :: rest => (number 1 rest.length rest).map fun (n, rest) => (-(n : Int), rest)
  | '+' :: rest => (number 1 rest.length rest).map fun (n, rest) => ((n : Int), rest)
  | rest => (number 1 4 rest).map fun (n, rest) => ((n : Int), rest)

-- Digits after the ninth are read and dropped.
def nanoseconds : List Char → Option (Nat × List Char)
  | '.' :: rest => do
      let digits := (rest.take 9).takeWhile Char.isDigit
      if digits.isEmpty then none
      else some (Decimal.toNat digits * Nat.pow 10 (9 - digits.length),
        (rest.drop digits.length).dropWhile Char.isDigit)
  | rest => some (0, rest)

def twoDigits : List Char → Option (Nat × List Char)
  | a :: b :: rest =>
      if a.isDigit ∧ b.isDigit then some (Decimal.toNat [a, b], rest) else none
  | _ => none

-- The distance from universal time, in seconds.
def zone (text : List Char) : Option (Int × List Char) :=
  match text with
  | 'Z' :: rest => some (0, rest)
  | 'z' :: rest => some (0, rest)
  | u :: t :: c :: rest =>
      if [u, t, c].map Char.toUpper = ['U', 'T', 'C'] then some (0, rest)
      else if u = '+' ∨ u = '-' ∨ u = '\u2212' then do
        let (hours, rest) ← twoDigits (t :: c :: rest)
        let (minutes, rest) ← twoDigits (rest.dropWhile fun c => c = ':' || isBlank c)
        if minutes < 60 then
          let offset : Int := hours * 3600 + minutes * 60
          some (if u = '+' then offset else -offset, rest)
        else none
      else none
  | _ => none

def dayMark : List Char → Option (List Char)
  | c :: rest => if c = 't' ∨ c = 'T' ∨ c = ' ' then some rest else none
  | [] => none

end Read

-- The time that is made up of a date, a time of day and the distance from universal time, if they
-- are in range. The second after the last of a minute is a leap second.
def ofParts (year : Int) (month day hour minute second nanos : Nat) (offset : Int) :
    Option Instant :=
  if 86400 ≤ offset.natAbs then none
  else if year < minYear ∨ maxYear < year then none
  else if month < 1 ∨ 12 < month ∨ day < 1 ∨ daysInMonth year month < day then none
  else if 24 ≤ hour ∨ 60 ≤ minute ∨ 61 ≤ second then none
  else
    let leap := decide (second = 60)
    let time := hour * 3600 + minute * 60 + (if leap then 59 else second)
    let seconds := daysOfDate year month day * 86400 + time - offset
    if isInCalendar seconds then some ⟨seconds, if leap then nanos + 1000000000 else nanos⟩
    else none

-- Times in the form of RFC 3339, taken leniently: leading zeros may be missing, and there may be
-- blanks around the parts.
def read? (text : List Char) : Option Instant := do
  let (year, rest) ← Read.year text
  let rest ← Read.separator '-' rest
  let (month, rest) ← Read.field 2 rest
  let rest ← Read.separator '-' rest
  let (day, rest) ← Read.field 2 rest
  let rest ← Read.dayMark rest
  let (hour, rest) ← Read.field 2 rest
  let rest ← Read.separator ':' rest
  let (minute, rest) ← Read.field 2 rest
  let rest ← Read.separator ':' rest
  let (second, rest) ← Read.field 2 rest
  let (nanos, rest) ← Read.nanoseconds rest
  let (offset, rest) ← Read.zone (trimStart rest)
  if (trimStart rest).isEmpty then ofParts year month day hour minute second nanos offset else none

end Instant

end FilteredFeed.Feed
