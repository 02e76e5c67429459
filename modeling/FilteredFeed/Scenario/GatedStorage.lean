import FilteredFeed.Engine.Basic

namespace FilteredFeed.Scenario

open FilteredFeed.Engine FilteredFeed.Feed FilteredFeed.Timeline

variable [Patterns]

-- What has asked a storage for items. It asks once.
inductive Asker where
  | task (id : TaskId)
  | operation (id : OperationId)
deriving DecidableEq, Repr

-- A storage that can be told to fail, and to keep the fetches of timelines waiting at a gate.
structure GatedStorage where
  storage : Storage := {}
  -- how many fetches timelines have started
  started : Nat := 0
  failure : Option StorageError := none
  closed : Bool := false
  -- the fetches at the gate, oldest first
  waiting : List Asker := []
  -- those that were let through
  released : List Asker := []
deriving Inhabited

namespace GatedStorage

-- A fetch past the gate.
def answer (s : GatedStorage) (request : FetchRequest) :
    Except StorageError (List Item) × GatedStorage :=
  match s.failure with
  | some cause => (.error cause, s)
  | none =>
      let (result, storage) := s.storage.query request.text request.before (some request.limit)
      (result, { s with storage })

-- Goes on with the fetch of an asker, from its start if there is none yet. Without an answer it
-- waits at the gate.
def fetch (s : GatedStorage) (asker : Asker) (request : FetchRequest) :
    Option (Except StorageError (List Item)) × GatedStorage :=
  if s.waiting.contains asker then (none, s)
  else
    let starts := !s.released.contains asker
    let s := if starts then { s with started := s.started + 1 } else s
    if starts && s.closed then (none, { s with waiting := s.waiting ++ [asker] })
    else
      let (result, s) := s.answer request
      (some result, s)

-- Lets the oldest fetch at the gate through.
def release (s : GatedStorage) : Option Asker × GatedStorage :=
  match s.waiting with
  | [] => (none, s)
  | asker :: waiting => (some asker, { s with waiting, released := asker :: s.released })

end GatedStorage

end FilteredFeed.Scenario
