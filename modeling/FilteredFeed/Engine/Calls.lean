import FilteredFeed.Engine.Step

namespace FilteredFeed.Engine

open FilteredFeed.Feed FilteredFeed.Filter FilteredFeed.Listener
open FilteredFeed.Grammar FilteredFeed.Timeline

variable [Patterns]

-- What can be asked of an engine. A call does what it does at once, and leaves on the stack what
-- has to wait for the listeners of a query.

def addQuery (e : Engine) (query : Query Target) : QueryId × Engine :=
  (e.queries.length, { e with queries := e.queries ++ [query] })

def addChannel (e : Engine) (capacity : Nat) : StreamId × Engine :=
  (e.channels.length, { e with channels := e.channels ++ [.ofCapacity capacity] })

-- A timeline begins inactive and empty. That its event channel could be made is up to the caller.
def addTimeline (e : Engine) (config : Config) (storage : StorageId) (stream : StreamId)
    (query : Option QueryId) (hasSink : Bool) : TimelineId × Engine :=
  let t := e.timelines.length
  let timeline : Timeline :=
    { config, storage, stream, query, hasSink, buffer := .empty config.maxItems }
  (t, ({ e with timelines := e.timelines ++ [timeline] } : Engine).recompile t)

-- A timeline that has an event channel of its own, or nothing if the program breaks off.
def openTimeline? (e : Engine) (room : Nat) (config : Config) (storage : StorageId)
    (stream : StreamId) (query : Option QueryId) (hasSink : Bool) : Option (TimelineId × Engine) :=
  if Channel.opens room config.eventCapacity then
    some (e.addTimeline config storage stream query hasSink)
  else none

-- Keeps a timeline from going away before the call that follows has ended.
def hold (e : Engine) (t : TimelineId) : Engine :=
  (e.retain (.timeline t)).push [.release (.timeline t)]

def setExpression (e : Engine) (q : QueryId) (expr : Expr) : Engine :=
  let e := e.modifyQuery q (·.replace expr none)
  e.push [.announce q (e.query q).revision]

def setSource (e : Engine) (q : QueryId) (text : String) : Except ReadError Unit × Engine :=
  let (result, query) := (e.query q).replaceSource text
  (result, (e.modifyQuery q fun _ => query).push [.announce q query.revision])

def activateQuery (e : Engine) (q : QueryId) : Engine := e.push [.activate q]

def deactivateQuery (e : Engine) (q : QueryId) : Engine := e.push [.deactivate q]

-- Adds somebody outside to the listeners of a query.
def listen (e : Engine) (q : QueryId) : ObserverId × SubscriptionId × Engine :=
  let o := e.observers.length
  let e := { e with observers := e.observers ++ [1] }
  let (id, registry) := (e.query q).registry.subscribe (.observer o)
  (o, id, e.modifyQuery q fun query => { query with registry })

-- Lets an observer go, together with its subscription.
def unlisten (e : Engine) (o : ObserverId) (q : QueryId) (id : SubscriptionId) : Engine :=
  (e.dropSubscription (some (q, id))).release (.observer o)

-- The observer that has control gives it back.
def leaveObserver (e : Engine) : Engine :=
  match e.stack with
  | .observer _ _ :: rest => { e with stack := rest }
  | _ => e

-- Stops a timeline. Its items stay, so that it can be activated again cheaply.
def deactivate (e : Engine) (t : TimelineId) : Engine :=
  if (e.timeline t).phase.isActive then
    let (query, e) := e.teardown t
    e.push (deactivations query)
  else e

def invalidate (e : Engine) (t : TimelineId) : Engine :=
  if (e.timeline t).phase = .disposed then e else e.invalidateNow t

-- Gives a timeline another query, or none.
def setQuery (e : Engine) (t : TimelineId) (query : Option QueryId) :
    Except TimelineError Unit × Engine :=
  let timeline := e.timeline t
  if timeline.phase = .disposed then (.error .disposed, e)
  else if timeline.query = query then (.ok (), e)
  else
    let e := e.unsubscribe t
    let epoch := timeline.epoch + 1
    let e := e.modifyTimeline t fun timeline => { timeline with activated := none, query, epoch }
    let (delta, e) := e.invalidateQuietly t
    let e := e.emit t delta
    let attachment :=
      match query with
      | some q =>
          if timeline.phase.isActive then [Frame.activate q, .attach t q epoch .swap] else []
      | none => []
    (.ok (), e.push (deactivations timeline.activated ++ attachment))

-- Stops a timeline for good.
def dispose (e : Engine) (t : TimelineId) : Engine :=
  if (e.timeline t).phase = .disposed then e
  else
    let (query, e) := e.teardown t
    let (buffer, delta) := (e.timeline t).buffer.clear
    let e := e.modifyTimeline t fun timeline =>
      { timeline with
        phase := .disposed
        query := none
        hasRuntime := false
        compiled := .contradiction
        compiledRevision := none
        unread := 0
        buffer }
    e.push (deactivations query ++ [.emit t delta])

def accepts (e : Engine) (t : TimelineId) (item : Item) : Bool × Engine :=
  let (filter, e) := e.currentFilter t
  (filter.accepts item, e)

-- How many live items came in since this was last asked.
def takeUnread (e : Engine) (t : TimelineId) : Nat × Engine :=
  ((e.timeline t).unread, e.modifyTimeline t fun timeline => { timeline with unread := 0 })

-- Gives up a hold on a timeline.
def drop (e : Engine) (t : TimelineId) : Engine := e.release (.timeline t)

def addOperation (e : Engine) (t : TimelineId) (kind : OperationKind) : OperationId × Engine :=
  let o := e.operations.length
  let operation : Operation := { timeline := t, kind, status := .running }
  (o, ({ e with operations := e.operations ++ [operation] } : Engine).retain (.timeline t))

-- Begins to activate a timeline: its pump starts, its query is activated, and the first items are
-- asked for. An active timeline stays as it is.
def startActivation (e : Engine) (t : TimelineId) (hasRuntime : Bool) : OperationId × Engine :=
  let (o, e) := e.addOperation t .activation
  let timeline := e.timeline t
  if timeline.phase = .disposed then (o, e.close o (.done (.error .disposed)))
  else if timeline.phase ≠ .inactive then (o, e.close o (.done (.ok .activated)))
  else if !hasRuntime then (o, e.close o (.done (.error .noRuntime)))
  else
    let generation := timeline.generation + 1
    let (k, e) := e.spawn (.pump t timeline.stream)
    let e := e.modifyChannel timeline.stream (·.subscribe k)
    let e := e.modifyTimeline t fun timeline =>
      { timeline with phase := .activating, generation, pump := some k, hasRuntime := true }
    match timeline.query with
    | some q =>
        (o, e.push [.activate q, .attach t q timeline.epoch (.activation o generation)])
    | none => (o, e.prepare t o generation)

-- Begins to fetch items older than `before`, or the newest.
def startPage (e : Engine) (t : TimelineId) (before : Option ItemId) (limit : Nat) :
    OperationId × Engine :=
  let (o, e) := e.addOperation t .page
  let timeline := e.timeline t
  if timeline.phase = .disposed then (o, e.close o (.done (.error .disposed)))
  else
    (o, e.setStatus o <| .waiting
      { text := timeline.compiled.queryText
        before
        limit
        generation := timeline.generation })

-- Storage has answered to an activation. One of an earlier generation has no effect.
def completeActivation (e : Engine) (o : OperationId) (t : TimelineId) (generation : Nat)
    (result : Except StorageError (List Item)) : Engine :=
  if (e.timeline t).generation ≠ generation then e.close o (.done (.ok .activated))
  else
    match result with
    | .ok items =>
        let e := e.modifyTimeline t fun timeline =>
          ({ timeline with phase := .active } : Timeline).absorb items |>.1
        e.close o (.done (.ok .activated))
    | .error cause =>
        let (query, e) := e.teardown t
        e.push (deactivations query ++ [.finish o (.error (.fetch cause))])

-- Storage has answered to a fetch. Items of an earlier generation are not used.
def completePage (e : Engine) (o : OperationId) (t : TimelineId) (generation : Nat) :
    Except StorageError (List Item) → Engine
  | .error cause => e.close o (.done (.error (.fetch cause)))
  | .ok items =>
      if (e.timeline t).generation ≠ generation then e.close o (.done (.ok .discarded))
      else
        let (timeline, delta) := (e.timeline t).absorb items
        (e.modifyTimeline t fun _ => timeline).close o (.done (.ok (.merged delta)))

-- Storage has answered to an operation that waits.
def complete (e : Engine) (o : OperationId) (result : Except StorageError (List Item)) : Engine :=
  match e.operations[o]? with
  | some ⟨t, kind, .waiting request⟩ =>
      let e := e.setStatus o .running
      match kind with
      | .activation => e.completeActivation o t request.generation result
      | .page => e.completePage o t request.generation result
  | _ => e

-- Drops an operation that waits. The timeline stays as the operation has left it.
def cancel (e : Engine) (o : OperationId) : Engine :=
  match e.operations[o]? with
  | some ⟨_, _, .waiting _⟩ => e.close o .cancelled
  | _ => e

end FilteredFeed.Engine
