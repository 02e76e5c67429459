import FilteredFeed.Engine.Tasks

namespace FilteredFeed.Engine

open FilteredFeed.Feed FilteredFeed.Filter FilteredFeed.Grammar
open FilteredFeed.Timeline

variable [Patterns]

-- What a timeline holds in the end.
structure Materialized where
  name : String
  queryText : String
  -- newest first
  items : List Item
  -- how many live items the filter accepted
  accepted : Nat
  -- how many live items were new, if that is counted
  unread : Option Nat
deriving DecidableEq, Repr

inductive MaterializeError where
  | filter (e : ReadError)
  | timeline (e : TimelineError)
deriving DecidableEq, Repr

-- Activates a timeline on a storage that answers at once.
def activateOn (e : Engine) (t : TimelineId) (storage : Storage) :
    Except TimelineError Unit × Engine :=
  let (o, e) := e.startActivation t true
  let e := e.run
  let e : Engine :=
    match e.operations[o]? with
    | some ⟨_, _, .waiting request⟩ =>
        (e.complete o (storage.query request.text request.before (some request.limit)).1).run
    | _ => e
  match e.operations[o]? with
  | some ⟨_, _, .done (.error cause)⟩ => (.error cause, e)
  | _ => (.ok (), e)

-- Offers live items one after the other, and says how many the filter accepted.
def offerAll (t : TimelineId) : List Item → Engine → Nat × Engine
  | [], e => (0, e)
  | item :: items, e =>
      let (taken, e) := e.offer t item
      let (count, e) := offerAll t items e
      (if taken then count + 1 else count, e)

-- Fills a timeline from stored items, lets live items arrive, and says what it holds then.
def fill (e : Engine) (t : TimelineId) (stored live : List Item) :
    Except MaterializeError Materialized := do
  let config := (e.timeline t).config
  let (activated, e) := e.activateOn t (.ofList stored)
  activated.mapError .timeline
  let (accepted, e) := Engine.offerAll t live e
  let timeline := e.timeline t
  return {
    name := config.name
    queryText := (e.currentFilter t).1.queryText
    items := timeline.buffer.items
    accepted
    unread := if config.countUnread then some timeline.unread else none }

-- What a filter makes of stored and live items, or nothing if the program breaks off.
def materialize? (room : Nat) (filter : String) (stored live : List Item) (config : Config) :
    Option (Except MaterializeError Materialized) :=
  match Query.parse filter with
  | .error e => some (.error (.filter e))
  | .ok query => do
      let (q, e) := ({} : Engine).addQuery query
      let (s, e) := e.addChannel 256
      let (t, e) ← e.openTimeline? room config 0 s (some q) true
      return e.fill t stored live

-- The same where there is room for every event channel.
def materialize (filter : String) (stored live : List Item) (config : Config) :
    Except MaterializeError Materialized := do
  let query ← (Query.parse filter).mapError .filter
  let (q, e) := ({} : Engine).addQuery query
  let (s, e) := e.addChannel 256
  let (t, e) := e.addTimeline config 0 s (some q) true
  e.fill t stored live

end FilteredFeed.Engine
