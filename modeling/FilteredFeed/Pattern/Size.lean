import FilteredFeed.Pattern.Basic

namespace FilteredFeed.Pattern

open FilteredFeed.Text (CharSet)

-- What an expression takes as an automaton that reads the bytes of a text in UTF-8. Counted
-- repetitions are written out, and take room for every round.

-- How many bytes an automaton may take.
def maxSize : Nat := 10 * 1024 * 1024

-- A state, one more way to go on from it, and one more range of bytes that it reads.
def stateSize : Nat := 32

def branchSize : Nat := 4

def rangeSize : Nat := 8

-- What the search for a match takes, whatever the expression.
def searchSize : Nat := 208

-- For every byte of some characters, the range it comes from.
abbrev ByteRanges := List (Nat × Nat)

-- The numbers from `lo` to `hi`, written in base 64 with so many digits, in groups in which each
-- digit has a range of its own.
def digitRanges : Nat → Nat → Nat → List ByteRanges
  | 0, _, _ => [[]]
  | digits + 1, lo, hi =>
      let unit := Nat.pow 64 digits
      let first := lo / unit
      let last := hi / unit
      if first = last then
        (digitRanges digits (lo % unit) (hi % unit)).map ((first, first) :: ·)
      else
        let startsWhole := lo % unit = 0
        let endsWhole := hi % unit = unit - 1
        let below :=
          if startsWhole then []
          else (digitRanges digits (lo % unit) (unit - 1)).map ((first, first) :: ·)
        let above :=
          if endsWhole then []
          else (digitRanges digits 0 (hi % unit)).map ((last, last) :: ·)
        let lower := if startsWhole then first else first + 1
        let upper := if endsWhole then last else last - 1
        let between :=
          if lower ≤ upper then [(lower, upper) :: List.replicate digits (0, 63)] else []
        below ++ between ++ above

-- The code points that take one, two, three and four bytes. Surrogates take none.
def codeBlocks : List (Nat × Nat × Nat) :=
  [(1, 0, 0x7F), (2, 0x80, 0x7FF), (3, 0x800, 0xD7FF), (3, 0xE000, 0xFFFF),
    (4, 0x10000, CharSet.maxCode)]

def commonPrefix : ByteRanges → ByteRanges → Nat
  | a :: as, b :: bs => if a = b then commonPrefix as bs + 1 else 0
  | _, _ => 0

-- A way through the bytes of a character shares its first states with the way before it.
def waySize (previous : ByteRanges) : List ByteRanges → Nat
  | [] => 0
  | way :: rest =>
      stateSize * (way.length - commonPrefix previous way) + branchSize + waySize way rest

-- The ways through the bytes of some characters, by the blocks of these.
def waysOf (set : CharSet) : List (List ByteRanges) :=
  codeBlocks.map fun (bytes, lo, hi) =>
    (set.ranges.filter fun r => decide (max lo r.1 ≤ min hi r.2)).flatMap fun r =>
      digitRanges bytes (max lo r.1) (min hi r.2)

def isSingle (set : CharSet) : Bool :=
  match set.ranges with
  | [(lo, hi)] => lo == hi
  | _ => false

-- A single character has a state for every byte. Ranges of ASCII share one state.
def setSize (set : CharSet) : Nat :=
  let ways := waysOf set
  if set.ranges.isEmpty then stateSize
  else if isSingle set then stateSize * ways.flatten.flatten.length
  else if set.ranges.all fun r => decide (r.2 < 0x80) then
    2 * stateSize + rangeSize * set.ranges.length
  else 2 * stateSize + ways.foldr (fun way n => waySize [] way + n) 0

namespace Node

def canBeEmpty : Node → Bool
  | .empty | .anchor _ => true
  | .oneOf _ => false
  | .seq first second => first.canBeEmpty && second.canBeEmpty
  | .alt left right => left.canBeEmpty || right.canBeEmpty
  | .repeated min _ inner => min == 0 || inner.canBeEmpty

-- Whether nothing but the empty text matches.
def isBlank : Node → Bool
  | .empty | .anchor _ => true
  | .oneOf _ => false
  | .seq first second => first.isBlank && second.isBlank
  | .alt left right => left.isBlank && right.isBlank
  | .repeated _ max inner => max == some 0 || inner.isBlank

def isAlternative : Node → Bool
  | .alt _ _ => true
  | _ => false

-- A choice has a state where it begins and one where it ends. A repetition of what is blank is
-- done once.
def size : Node → Nat
  | .empty | .anchor _ => stateSize
  | .oneOf set => setSize set
  | .seq first second => first.size + second.size
  | .alt left right =>
      left.size + right.size + branchSize +
        if left.isAlternative then 0 else 2 * stateSize + branchSize
  | .repeated min max inner =>
      let once := inner.size
      let choice := stateSize + 2 * branchSize
      let min := if inner.isBlank then Nat.min min 1 else min
      let max := if inner.isBlank then some (Nat.min (max.getD 1) 1) else max
      match max with
      | none =>
          if 0 < min then min * once + choice
          else if inner.canBeEmpty then once + 2 * choice + stateSize
          else once + choice
      | some max =>
          if max = min then Nat.max (min * once) stateSize
          else min * once + (max - min) * (once + choice) + stateSize

end Node

end FilteredFeed.Pattern
