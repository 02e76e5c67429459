import FilteredFeed.Toml.Number

namespace FilteredFeed.Toml

-- How a table came into being.
inductive Origin where
  -- by a header of its own
  | header
  -- by the header of a table in it
  | implied
  -- by a dotted key
  | dotted
deriving DecidableEq, Repr

-- A document while it is read.
inductive Node where
  | value (v : Value)
  | table (origin : Origin) (members : List (String × Node))
  | tables (items : List (List (String × Node)))

abbrev Members := List (String × Node)

namespace Node

mutual

def toValue : Node → Value
  | .value v => v
  | .table _ members => .table (toMembers members)
  | .tables items => .array (toTables items)

def toMembers : List (String × Node) → List (String × Value)
  | [] => []
  | (key, node) :: rest => (key, node.toValue) :: toMembers rest

def toTables : List (List (String × Node)) → List Value
  | [] => []
  | members :: rest => .table (toMembers members) :: toTables rest

end

end Node

namespace Members

def replace (members : Members) (key : String) (node : Node) : Members :=
  members.map fun m => if m.1 = key then (key, node) else m

-- Puts a member in that is not there yet.
def add (members : Members) (key : String) (node : Node) : Option Members :=
  if (members.lookup key).isSome then none else some (members ++ [(key, node)])

-- Goes down a path and edits the table at its end. What is missing is made. The last table of a
-- list stands for the list. Dotted keys do not go into tables that have a header.
def edit (dotted : Bool) (f : Origin → Members → Option Members) :
    List String → Origin → Members → Option Members
  | [], origin, members => f origin members
  | key :: path, _, members =>
      match members.lookup key with
      | none => do
          let origin := if dotted then .dotted else .implied
          members.add key (.table origin (← edit dotted f path origin []))
      | some (.table origin inner) =>
          if dotted && origin == .header then none
          else do return members.replace key (.table origin (← edit dotted f path origin inner))
      | some (.tables items) => do
          let inner ← edit dotted f path .header (items.getLastD [])
          return members.replace key (.tables (items.dropLast ++ [inner]))
      | some (.value _) => none

-- Puts a value in under a key with dots. Tables of other origin take no members that way.
def insert (members : Members) (path : List String) (key : String) (v : Value) : Option Members :=
  members.edit true
    (fun origin members =>
      if path.isEmpty || origin == .dotted then members.add key (.value v) else none)
    path .header

-- Begins a table. Only one that was implied before may be there.
def openTable (members : Members) (path : List String) (key : String) : Option Members :=
  members.edit false
    (fun _ members =>
      match members.lookup key with
      | none => members.add key (.table .header [])
      | some (.table .implied inner) => some (members.replace key (.table .header inner))
      | some _ => none)
    path .header

-- Begins a further table of a list.
def openListed (members : Members) (path : List String) (key : String) : Option Members :=
  members.edit false
    (fun _ members =>
      match members.lookup key with
      | none => members.add key (.tables [[]])
      | some (.tables items) => some (members.replace key (.tables (items ++ [[]])))
      | some _ => none)
    path .header

end Members

-- How deep values may be nested, and how many parts a key may have.
def maxDepth : Nat := 79

def isBareKey (c : Char) : Bool := c.isAlphanum || c == '_' || c == '-'

def simpleKey : Reader String
  | '"' :: rest => do
      let (cs, rest) ← Quotation.line '"' (rest.length + 1) rest
      return (.ofList cs, rest)
  | '\'' :: rest => do
      let (cs, rest) ← Quotation.line '\'' (rest.length + 1) rest
      return (.ofList cs, rest)
  | text =>
      let word := text.takeWhile isBareKey
      if word.isEmpty then none else some (.ofList word, text.dropWhile isBareKey)

-- A key with dots, at most of so many parts: the path to a table, and the name in it.
def dottedKey : Nat → Reader (List String × String)
  | 0, _ => none
  | parts + 1, text => do
      let (key, rest) ← simpleKey (skipBlanks text)
      match skipBlanks rest with
      | '.' :: rest =>
          let ((path, last), rest) ← dottedKey parts rest
          return ((key :: path, last), rest)
      | rest => return (([], key), rest)

def key : Reader (List String × String) := dottedKey maxDepth

-- The elements of a list up to its closing bracket, which may come after a comma.
def elements (value : Reader Value) : Nat → Reader (List Value)
  | 0, _ => none
  | room + 1, text =>
      match skipSpace text with
      | ']' :: rest => some ([], rest)
      | text => do
          let (v, rest) ← value text
          match skipSpace rest with
          | ']' :: rest => return ([v], rest)
          | ',' :: rest =>
              let (vs, rest) ← elements value room rest
              return (v :: vs, rest)
          | _ => none

-- The members of a table on one line, after its opening brace or a comma.
def inlineMembers (value : Reader Value) : Nat → Members → Reader Members
  | 0, _, _ => none
  | room + 1, members, text => do
      let ((path, last), rest) ← key text
      let (v, rest) ← value (skipBlanks (← expect '=' rest))
      let members ← members.insert path last v
      match skipBlanks rest with
      | '\x7d' :: rest => return (members, rest)
      | ',' :: rest => inlineMembers value room members rest
      | _ => none

-- A value, in which at most so many more brackets may be opened.
def value : Nat → Reader Value
  | depth, text =>
      match text with
      | '"' :: rest => do
          let (s, rest) ← Quotation.read '"' rest
          return (.string s, rest)
      | '\'' :: rest => do
          let (s, rest) ← Quotation.read '\'' rest
          return (.string s, rest)
      | '[' :: rest =>
          match depth with
          | 0 => none
          | depth + 1 => do
              let (items, rest) ← elements (value depth) (rest.length + 1) rest
              return (.array items, rest)
      | '\x7b' :: rest =>
          match depth with
          | 0 => none
          | depth + 1 =>
              match skipBlanks rest with
              | '\x7d' :: rest => some (.table [], rest)
              | rest => do
                  let (members, rest) ← inlineMembers (value depth) (rest.length + 1) [] rest
                  return (.table (Node.toMembers members), rest)
      | 't' :: 'r' :: 'u' :: 'e' :: rest => some (.bool true, rest)
      | 'f' :: 'a' :: 'l' :: 's' :: 'e' :: rest => some (.bool false, rest)
      | text =>
          if Moment.isDate text || Moment.isTime text then Moment.read text else Number.read text

-- The lines of a document. Keys go into the table whose header came last.
def readLines : Nat → List String → Members → List Char → Option Members
  | 0, _, _, _ => none
  | room + 1, current, members, text =>
      match skipSpace text with
      | [] => some members
      | '[' :: '[' :: rest => do
          let ((path, last), rest) ← key rest
          let rest ← endLine? (← expect ']' (← expect ']' rest))
          readLines room (path ++ [last]) (← members.openListed path last) rest
      | '[' :: rest => do
          let ((path, last), rest) ← key rest
          let rest ← endLine? (← expect ']' rest)
          readLines room (path ++ [last]) (← members.openTable path last) rest
      | text => do
          let ((path, last), rest) ← key text
          let (v, rest) ← value maxDepth (skipBlanks (← expect '=' rest))
          let rest ← endLine? rest
          let members ← members.edit false (fun _ inner => inner.insert path last v) current .header
          readLines room current members rest

-- Reads a whole document, which is a table.
def parse? (text : String) : Option (List (String × Value)) := do
  let text :=
    match text.toList with
    | '\ufeff' :: rest => rest
    | text => text
  return Node.toMembers (← readLines (text.length + 1) [] [] text)

end FilteredFeed.Toml
