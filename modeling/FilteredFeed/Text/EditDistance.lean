namespace FilteredFeed.Text

-- The row of distances from the prefixes of one word to the next longer prefix of the other.
-- `corner` is the distance of the row above at the place before `above`.
def nextRow (c : Char) (left corner : Nat) : List Char → List Nat → List Nat
  | d :: word, up :: above =>
      let cost := if c = d then corner else corner + 1
      let here := min (min (left + 1) (up + 1)) cost
      here :: nextRow c here up word above
  | _, _ => []

-- The least number of insertions, deletions and replacements that turn one word into the other.
def editDistance (a b : List Char) : Nat :=
  let start := List.range (b.length + 1)
  let last := a.foldl (fun row c =>
    match row with
    | [] => []
    | corner :: above => (corner + 1) :: nextRow c (corner + 1) corner b above) start
  last.getLastD 0

-- A word as it is compared with suggestions. Of the letters whose lower case holds an ASCII
-- letter, `K` with the Kelvin sign is in no suggestion, and a dotted `I` becomes two characters.
def foldCase (word : List Char) : List Char :=
  word.flatMap fun c => if c = '\u0130' then ['i', '\u0307'] else [c.toLower]

-- The first of the candidates with the least distance.
def nearest (word : List Char) : List String → Option (String × Nat)
  | [] => none
  | candidate :: rest =>
      let distance := editDistance word candidate.toList
      match nearest word rest with
      | some (other, d) => if d < distance then some (other, d) else some (candidate, distance)
      | none => some (candidate, distance)

def maxSuggestionDistance : Nat := 3

-- A candidate near enough to be what was meant.
def suggestion (word : String) (candidates : List String) : Option String :=
  match nearest (foldCase word.toList) candidates with
  | some (candidate, distance) =>
      if 0 < distance ∧ distance ≤ maxSuggestionDistance then some candidate else none
  | none => none

end FilteredFeed.Text
