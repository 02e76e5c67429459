import FilteredFeed.Engine.Basic

namespace FilteredFeed.Engine

open FilteredFeed.Feed FilteredFeed.Filter FilteredFeed.Listener
open FilteredFeed.Timeline

variable [Patterns]

-- What a timeline does in one go, without giving up control.

-- The compiled form of a query, with the revision it belongs to.
def compile (e : Engine) (q : QueryId) : CompiledFilter × Nat × Engine :=
  let (filter, query) := (e.query q).compile
  (filter, query.revision, e.modifyQuery q fun _ => query)

-- Whether the query has changed since its filter was applied.
def isStale (e : Engine) (t : TimelineId) : Bool :=
  let timeline := e.timeline t
  (timeline.query.map fun q => (e.query q).revision) != timeline.compiledRevision

-- Applies the filter of the query as it is now.
def recompile (e : Engine) (t : TimelineId) : Engine :=
  match (e.timeline t).query with
  | some q =>
      let (filter, revision, e) := e.compile q
      e.modifyTimeline t fun timeline =>
        { timeline with compiled := filter, compiledRevision := some revision }
  | none =>
      e.modifyTimeline t fun timeline =>
        { timeline with compiled := .contradiction, compiledRevision := none }

-- The filter of the query as it is now, applied or not.
def currentFilter (e : Engine) (t : TimelineId) : CompiledFilter × Engine :=
  match (e.timeline t).query with
  | some q =>
      if e.isStale t then
        let (filter, _, e) := e.compile q
        (filter, e)
      else ((e.timeline t).compiled, e)
  | none => ((e.timeline t).compiled, e)

def dropSubscription (e : Engine) : Option (QueryId × SubscriptionId) → Engine
  | some (q, id) =>
      e.modifyQuery q fun query => { query with registry := (query.registry.unsubscribe id).2 }
  | none => e

-- Takes back the subscription of a timeline.
def unsubscribe (e : Engine) (t : TimelineId) : Engine :=
  (e.dropSubscription (e.timeline t).subscription).modifyTimeline t fun timeline =>
    { timeline with subscription := none }

-- Asks for a backfill in the background, in place of one that may be under way.
def startRefetch (e : Engine) (t : TimelineId) : Engine :=
  let timeline := e.timeline t
  if timeline.hasRuntime then
    let e := e.abort? timeline.refetch
    let request : FetchRequest :=
      { text := timeline.compiled.queryText
        before := none
        limit := timeline.config.backfillCount
        generation := timeline.generation }
    let (k, e) := e.spawn (.refetch t request)
    e.modifyTimeline t fun timeline => { timeline with refetch := some k }
  else e

-- Clears the buffer, applies the current filter, and fills the buffer again if the timeline is
-- active. What happened to the buffer is still to be said.
def invalidateQuietly (e : Engine) (t : TimelineId) : Delta × Engine :=
  let e := e.abort? (e.timeline t).refetch
  let (buffer, delta) := (e.timeline t).buffer.clear
  let e := e.modifyTimeline t fun timeline =>
    { timeline with
      generation := timeline.generation + 1
      caughtUp := none
      unread := 0
      refetch := none
      buffer }
  let e := e.recompile t
  if (e.timeline t).phase.isActive then
    let e := e.modifyTimeline t fun timeline => { timeline with phase := .invalidated }
    (delta, e.startRefetch t)
  else (delta, e)

def emit (e : Engine) (t : TimelineId) (delta : Delta) : Engine :=
  e.modifyTimeline t (·.emit delta)

def invalidateNow (e : Engine) (t : TimelineId) : Engine :=
  let (delta, e) := e.invalidateQuietly t
  e.emit t delta

-- Stops background work and unsubscribes. The query on which the timeline had an activation is
-- still to be deactivated.
def teardown (e : Engine) (t : TimelineId) : Option QueryId × Engine :=
  let timeline := e.timeline t
  let e := (e.abort? timeline.pump).abort? timeline.refetch
  let e := e.unsubscribe t
  (timeline.activated,
   e.modifyTimeline t fun timeline =>
     { timeline with
       generation := timeline.generation + 1
       epoch := timeline.epoch + 1
       pump := none
       refetch := none
       phase := .inactive
       activated := none })

def deactivations (query : Option QueryId) : List Frame := (query.map Frame.deactivate).toList

-- Gives up one hold on a listener. A timeline that nobody holds any more is taken down.
def release (e : Engine) : Target → Engine
  | .observer o => { e with observers := e.observers.modify o (· - 1) }
  | .timeline t =>
      let last := e.timelines[t]?.any fun timeline => timeline.holders == 1
      let e := e.modifyTimeline t fun timeline => { timeline with holders := timeline.holders - 1 }
      if last then
        let (query, e) := e.teardown t
        e.push (deactivations query)
      else e

-- A timeline is told that its query was changed or toggled. What a live item has made it apply
-- before is not applied again.
def onInvalidated (e : Engine) (t : TimelineId) (revision : Nat) : Engine :=
  let timeline := e.timeline t
  if timeline.phase = .disposed then e
  else
    match timeline.caughtUp with
    | some caughtUp =>
        if revision ≤ caughtUp ∧ !e.isStale t then
          if revision = caughtUp then e.modifyTimeline t fun timeline => { timeline with caughtUp := none }
          else e
        else e.invalidateNow t
    | none => e.invalidateNow t

-- A live item is offered to a timeline. A change of the query that has not been announced yet is
-- applied first.
def offer (e : Engine) (t : TimelineId) (item : Item) : Bool × Engine :=
  if !(e.timeline t).phase.isActive then (false, e)
  else
    let (cleared, e) :=
      if e.isStale t then
        let (cleared, e) := e.invalidateQuietly t
        (cleared, e.modifyTimeline t fun timeline =>
          { timeline with caughtUp := timeline.compiledRevision })
      else ({}, e)
    let e := e.emit t cleared
    if (e.timeline t).compiled.accepts item then (true, e.modifyTimeline t (·.receive item))
    else (false, e)

-- Storage has answered to a refetch. An answer of an earlier generation is dropped.
def completeRefetch (e : Engine) (t : TimelineId) (generation : Nat)
    (result : Except StorageError (List Item)) : Engine :=
  if (e.timeline t).generation ≠ generation then e
  else
    let e := e.modifyTimeline t fun timeline =>
      { timeline with
        refetch := none
        phase := if timeline.phase = .invalidated then .active else timeline.phase }
    match result with
    | .ok items => e.modifyTimeline t fun timeline => (timeline.absorb items).1
    | .error cause =>
        e.modifyTimeline t (·.emitEvent (.refetchFailed generation cause.message))

-- A receiver has fallen behind its stream. What it missed is fetched, and nothing is cleared.
def recoverLag (e : Engine) (t : TimelineId) : Engine :=
  if (e.timeline t).phase.isActive then e.startRefetch t else e

end FilteredFeed.Engine
