import FilteredFeed.Clause.Parser
import FilteredFeed.Feed.Item

namespace FilteredFeed.Feed

variable [Patterns]

-- Why storage cannot answer.
inductive StorageError where
  | invalidQuery (reason : String)
  | unavailable (reason : String)
deriving DecidableEq, Repr

namespace StorageError

def message : StorageError → String
  | .invalidQuery reason => "invalid query: " ++ reason
  | .unavailable reason => "storage unavailable: " ++ reason

-- Whether the same request might succeed later.
def isTransient : StorageError → Bool
  | .invalidQuery _ => false
  | .unavailable _ => true

end StorageError

-- Items that are kept, in the order in which their ids first came.
structure Storage where
  items : List Item := []
  -- how many queries were run, those that failed among them
  calls : Nat := 0
  lastQuery : Option String := none
deriving DecidableEq, Repr, Inhabited

namespace Storage

-- Puts an item over the one of its id, or at the end.
def store (item : Item) : List Item → List Item
  | [] => [item]
  | x :: rest => if x.id = item.id then item :: rest else x :: store item rest

def insert (s : Storage) (item : Item) : Storage := { s with items := store item s.items }

def insertAll (s : Storage) (items : List Item) : Storage := items.foldl insert s

def ofList (items : List Item) : Storage := insertAll {} items

def newestFirst (items : List Item) : List Item := items.mergeSort fun a b => decide (b.id ≤ a.id)

-- The items older than `before` that a condition selects, newest first, and at most `limit`.
def select (s : Storage) (condition : Clause.Condition) (before : Option ItemId) (limit : Option Nat) :
    List Item :=
  let found := s.items.filter fun item => before.all (item.id < ·) && condition.holds item
  match limit with
  | some limit => (newestFirst found).take limit
  | none => newestFirst found

def query (s : Storage) (text : String) (before : Option ItemId) (limit : Option Nat) :
    Except StorageError (List Item) × Storage :=
  let s := { s with calls := s.calls + 1, lastQuery := some text }
  match Clause.Condition.parse text with
  | .error e => (.error (.invalidQuery e.message), s)
  | .ok condition => (.ok (s.select condition before limit), s)

end Storage

end FilteredFeed.Feed
