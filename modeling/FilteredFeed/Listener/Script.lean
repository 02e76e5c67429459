namespace FilteredFeed.Listener

-- An action. One that makes a listener comes with the script of it: for every call of the
-- listener, what it does then.
inductive Scripted (α : Type) where
  | mk (action : α) (script : List (List (Scripted α)))

abbrev Script (α : Type) := List (List (Scripted α))

variable {α : Type}

namespace Scripted

def action : Scripted α → α
  | .mk action _ => action

def script : Scripted α → Script α
  | .mk _ script => script

mutual

-- How many actions there are, those of all scripts among them.
def weight : Scripted α → Nat
  | .mk _ script => weightOfScript script + 1

def weightOfCall : List (Scripted α) → Nat
  | [] => 0
  | a :: rest => a.weight + weightOfCall rest

def weightOfScript : List (List (Scripted α)) → Nat
  | [] => 0
  | call :: rest => weightOfCall call + weightOfScript rest

end

end Scripted

end FilteredFeed.Listener
