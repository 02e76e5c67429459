import FilteredFeed.Text.Decimal

namespace FilteredFeed.Json

open FilteredFeed.Text

-- JSON as it is written. There are no numbers but integers.
inductive Value where
  | null
  | bool (b : Bool)
  | number (n : Int)
  | string (s : String)
  | array (items : List Value)
  | object (members : List (String × Value))
deriving Inhabited

-- Quotes, backslashes and control characters are escaped.
def escapeChar (c : Char) : List Char :=
  if c = '"' then ['\\', '"']
  else if c = '\\' then ['\\', '\\']
  else if c = '\x08' then ['\\', 'b']
  else if c = '\x0c' then ['\\', 'f']
  else if c = '\n' then ['\\', 'n']
  else if c = '\r' then ['\\', 'r']
  else if c = '\t' then ['\\', 't']
  else if c.toNat < 0x20 then
    ['\\', 'u', '0', '0', Nat.digitChar (c.toNat / 16), Nat.digitChar (c.toNat % 16)]
  else [c]

def quote (text : String) : List Char := '"' :: text.toList.flatMap escapeChar ++ ['"']

namespace Value

-- Puts commas between texts.
def separated (comma : List Char) : List (List Char) → List Char
  | [] => []
  | [text] => text
  | text :: rest => text ++ comma ++ separated comma rest

mutual

def compact : Value → List Char
  | .null => "null".toList
  | .bool b => (toString b).toList
  | .number n => Decimal.ofInt n
  | .string s => quote s
  | .array items => '[' :: separated [','] (compactItems items) ++ [']']
  | .object members => '\x7b' :: separated [','] (compactMembers members) ++ ['\x7d']

def compactItems : List Value → List (List Char)
  | [] => []
  | item :: rest => item.compact :: compactItems rest

def compactMembers : List (String × Value) → List (List Char)
  | [] => []
  | (key, value) :: rest => (quote key ++ ':' :: value.compact) :: compactMembers rest

end

def newline (depth : Nat) : List Char := '\n' :: List.replicate (2 * depth) ' '

-- Brackets around the parts of a list or an object, each on a line of its own.
def block (depth : Nat) (opening closing : Char) (parts : List (List Char)) : List Char :=
  match parts with
  | [] => [opening, closing]
  | parts =>
      opening :: newline (depth + 1) ++ separated (',' :: newline (depth + 1)) parts ++
        newline depth ++ [closing]

mutual

def prettyAt (depth : Nat) : Value → List Char
  | .null => "null".toList
  | .bool b => (toString b).toList
  | .number n => Decimal.ofInt n
  | .string s => quote s
  | .array items => block depth '[' ']' (prettyItems (depth + 1) items)
  | .object members => block depth '\x7b' '\x7d' (prettyMembers (depth + 1) members)

def prettyItems (depth : Nat) : List Value → List (List Char)
  | [] => []
  | item :: rest => item.prettyAt depth :: prettyItems depth rest

def prettyMembers (depth : Nat) : List (String × Value) → List (List Char)
  | [] => []
  | (key, value) :: rest =>
      (quote key ++ ':' :: ' ' :: value.prettyAt depth) :: prettyMembers depth rest

end

-- Without any blanks.
def render (value : Value) : String := .ofList value.compact

-- Over several lines, indented by two blanks a level.
def pretty (value : Value) : String := .ofList (value.prettyAt 0)

end Value

end FilteredFeed.Json
