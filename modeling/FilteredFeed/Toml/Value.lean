namespace FilteredFeed.Toml

-- What stands for a key in a document. Nothing here asks for the size of a float or the day of a
-- date, and so they are not kept.
inductive Value where
  | string (s : String)
  | integer (n : Int)
  | float
  | bool (b : Bool)
  | date
  | array (items : List Value)
  | table (members : List (String × Value))
deriving Inhabited

-- Reads something from the front of a text.
abbrev Reader (α : Type) := List Char → Option (α × List Char)

def isBlank (c : Char) : Bool := c == ' ' || c == '\t'

-- Characters that may stand anywhere but at the end of a line.
def isPlain (c : Char) : Bool := c == '\t' || (decide (0x20 ≤ c.toNat) && c.toNat != 0x7F)

def skipBlanks (text : List Char) : List Char := text.dropWhile isBlank

def newline? : List Char → Option (List Char)
  | '\n' :: rest => some rest
  | '\r' :: '\n' :: rest => some rest
  | _ => none

def skipComment : List Char → List Char
  | '#' :: rest => rest.dropWhile isPlain
  | text => text

-- What may follow on a line that is complete.
def endLine? (text : List Char) : Option (List Char) :=
  match skipComment (skipBlanks text) with
  | [] => some []
  | text => newline? text

-- Blanks, comments and ends of lines. `room` bounds the characters.
def skipLines : Nat → List Char → List Char
  | 0, text => text
  | room + 1, text =>
      match text with
      | [] => []
      | c :: rest =>
          if isBlank c then skipLines room rest
          else if c = '#' then skipLines room (rest.dropWhile isPlain)
          else
            match newline? (c :: rest) with
            | some rest => skipLines room rest
            | none => c :: rest

def skipSpace (text : List Char) : List Char := skipLines text.length text

def expect (c : Char) : List Char → Option (List Char)
  | d :: rest => if c = d then some rest else none
  | [] => none

end FilteredFeed.Toml
