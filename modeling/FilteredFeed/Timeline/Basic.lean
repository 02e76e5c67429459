import FilteredFeed.Feed.Storage
import FilteredFeed.Filter.Compiled
import FilteredFeed.Listener.Registry
import FilteredFeed.Timeline.Buffer
import FilteredFeed.Timeline.Config

namespace FilteredFeed

open FilteredFeed.Feed FilteredFeed.Filter FilteredFeed.Listener

variable [Patterns]

namespace Timeline

abbrev QueryId := Nat

abbrev StreamId := Nat

abbrev StorageId := Nat

abbrev TaskId := Nat

inductive Phase where
  | inactive
  -- the first backfill is under way
  | activating
  | active
  -- the buffer was cleared, and is being filled again
  | invalidated
  -- for good
  | disposed
deriving DecidableEq, Repr, Inhabited

namespace Phase

-- Whether live items are observed.
def isActive : Phase → Bool
  | .activating | .active | .invalidated => true
  | .inactive | .disposed => false

def name : Phase → String
  | .inactive => "inactive"
  | .activating => "activating"
  | .active => "active"
  | .invalidated => "invalidated"
  | .disposed => "disposed"

end Phase

inductive Event where
  | bufferChanged (delta : Delta)
  | refetchFailed (generation : Nat) (reason : String)
deriving DecidableEq, Repr

inductive TimelineError where
  | fetch (cause : StorageError)
  | disposed
  -- there is nothing to run background work
  | noRuntime
deriving DecidableEq, Repr

def TimelineError.message : TimelineError → String
  | .fetch cause => "fetch failed: " ++ cause.message
  | .disposed => "timeline has been disposed"
  | .noRuntime => "timeline activation requires a tokio runtime"

end Timeline

open Timeline

-- A live view of the items that a query accepts.
structure Timeline where
  config : Config := {}
  storage : StorageId := 0
  stream : StreamId := 0
  -- whether somebody wants to be told of new items
  hasSink : Bool := true
  -- how many hold the timeline; without any it is taken down
  holders : Nat := 1
  phase : Phase := .inactive
  query : Option QueryId := none
  -- the query on which the timeline has an activation
  activated : Option QueryId := none
  -- goes up whenever an attachment under way may no longer be wanted
  epoch : Nat := 0
  -- the revision that a live item made the timeline apply ahead of its notification
  caughtUp : Option Nat := none
  subscription : Option (QueryId × SubscriptionId) := none
  -- the filter in use, and the revision of the query it comes from
  compiled : CompiledFilter := .contradiction
  compiledRevision : Option Nat := none
  buffer : Buffer := .empty 0
  -- goes up whenever storage results under way must not be used
  generation : Nat := 0
  -- how many live items came in since they were last counted
  unread : Nat := 0
  pump : Option TaskId := none
  refetch : Option TaskId := none
  hasRuntime : Bool := false
  -- all events and all notifications, newest first
  events : List Event := []
  notified : List ItemId := []
deriving Inhabited

namespace Timeline

def emitEvent (t : Timeline) (event : Event) : Timeline := { t with events := event :: t.events }

-- Says what happened to the buffer, if anything did.
def emit (t : Timeline) (delta : Delta) : Timeline :=
  if delta.isEmpty then t else t.emitEvent (.bufferChanged delta)

-- Puts storage results into the buffer.
def absorb (t : Timeline) (items : List Item) : Timeline × Delta :=
  let (buffer, delta) := t.buffer.merge items
  (({ t with buffer } : Timeline).emit delta, delta)

-- Puts a live item that the filter accepts into the buffer, and counts and announces it if it
-- is new.
def receive (t : Timeline) (item : Item) : Timeline :=
  let (t', delta) := t.absorb [item]
  if delta.inserted.contains item.id then
    { t' with
      unread := if t.config.countUnread then t.unread + 1 else t.unread
      notified :=
        if t.config.notifyNewArrivals && t.hasSink then item.id :: t.notified else t.notified }
  else t'

end Timeline

end FilteredFeed
