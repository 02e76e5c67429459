import FilteredFeed.Engine.Sections

namespace FilteredFeed.Engine

open FilteredFeed.Feed FilteredFeed.Filter FilteredFeed.Listener
open FilteredFeed.Timeline

variable [Patterns]

-- The round of a query that is to be run holds its listeners.
def retainAll (e : Engine) (listeners : List Target) : Engine := listeners.foldl retain e

-- A toggle is announced only if somebody listens.
def toggled (e : Engine) (q : QueryId) : Engine :=
  if e.listenerCount q = 0 then e else e.push [.announce q (e.query q).revision]

def addActivation (e : Engine) (q : QueryId) : Engine :=
  (e.modifyQuery q fun query => { query with activations := query.activations + 1 }).toggled q

-- Without an activation there is nothing to take back.
def removeActivation (e : Engine) (q : QueryId) : Engine :=
  if (e.query q).isActive then
    (e.modifyQuery q fun query => { query with activations := query.activations - 1 }).toggled q
  else e

-- During a round the request is only noted. The round under way will be followed by another.
def announce (e : Engine) (q : QueryId) (revision : Nat) : Engine :=
  let running := (e.query q).registry.isNotifying
  let e := e.modifyQuery q fun query =>
    { query with registry := query.registry.request e.isAlive revision }
  if running then e
  else (e.retainAll (e.query q).registry.waiting).push [.rounds q]

-- Runs the rounds of a query up to the next call of a listener.
def continueRounds (e : Engine) (q : QueryId) : Engine :=
  let (next, registry) := (e.query q).registry.advance e.isAlive
  let e := e.modifyQuery q fun query => { query with registry }
  match next with
  | .call listener revision => e.push [.call listener revision, .release listener, .rounds q]
  | .again listeners => (e.retainAll listeners).push [.rounds q]
  | .done => e

-- An activation applies the filter of the query and asks for the first items. What a timeline
-- kept from an earlier activation stays, unless the query has changed.
def prepare (e : Engine) (t : TimelineId) (o : OperationId) (generation : Nat) : Engine :=
  if (e.timeline t).generation ≠ generation then e.push [.finish o (.ok .activated)]
  else
    let e :=
      if e.isStale t then
        let e := e.recompile t
        let (buffer, delta) := (e.timeline t).buffer.clear
        (e.modifyTimeline t fun timeline => { timeline with unread := 0, buffer }).emit t delta
      else e
    let timeline := e.timeline t
    e.setStatus o <| .waiting
      { text := timeline.compiled.queryText
        before := none
        limit := timeline.config.backfillCount
        generation }

-- Applies a change of the query that came before there was a subscription to tell of it.
def refresh (e : Engine) (t : TimelineId) : Engine :=
  if e.isStale t then e.invalidateNow t else e

-- Subscribes to a query that was activated. The attachment is given up if the timeline has moved
-- on while the listeners of the query ran.
def attach (e : Engine) (t : TimelineId) (q : QueryId) (epoch : Nat) (purpose : Purpose) : Engine :=
  if (e.timeline t).epoch ≠ epoch then
    match purpose with
    | .swap => e.push [.deactivate q]
    | .activation o _ => e.push [.deactivate q, .finish o (.ok .activated)]
  else
    let (id, registry) := (e.query q).registry.subscribe (.timeline t)
    let e := e.modifyQuery q fun query => { query with registry }
    let e := e.unsubscribe t
    let e := e.modifyTimeline t fun timeline =>
      { timeline with subscription := some (q, id), activated := some q }
    match purpose with
    | .swap => e.refresh t
    | .activation o generation => e.prepare t o generation

-- Ends an operation, which then holds its timeline no longer.
def close (e : Engine) (o : OperationId) (status : Status) : Engine :=
  match e.operations[o]? with
  | some operation => (e.setStatus o status).release (.timeline operation.timeline)
  | none => e

def perform (e : Engine) : Frame → Engine
  | .activate q => e.addActivation q
  | .deactivate q => e.removeActivation q
  | .announce q revision => e.announce q revision
  | .rounds q => e.continueRounds q
  | .call (.timeline t) revision => e.onInvalidated t revision
  | .call (.observer o) revision => e.push [.observer o revision]
  | .observer _ _ => e
  | .release target => e.release target
  | .attach t q epoch purpose => e.attach t q epoch purpose
  | .emit t delta => e.emit t delta
  | .finish o result => e.close o (.done result)

-- One step of the calls that are running. There is none when no call is running, and none while
-- somebody outside has control.
def step (e : Engine) : Option Engine :=
  match e.stack with
  | [] => none
  | .observer _ _ :: _ => none
  | frame :: rest => some (({ e with stack := rest } : Engine).perform frame)

-- How many steps may follow from a notification, if `room` bounds the number of listeners.
def roundCost (room : Nat) : Nat := 5 * room + 2

def frameCost (room : Nat) : Frame → Nat
  | .activate _ | .deactivate _ => roundCost room + 2
  | .announce _ _ => roundCost room + 1
  | .attach .. => roundCost room + 4
  | .call _ _ => 3
  | .observer _ _ => 2
  | .rounds _ | .release _ | .emit _ _ | .finish _ _ => 1

def Frame.isAttachment : Frame → Bool
  | .attach .. => true
  | _ => false

-- A bound for the number of listeners of any query until all calls have ended.
def room (e : Engine) : Nat :=
  (e.queries.flatMap fun query => query.registry.subscriptions).length +
    e.stack.countP Frame.isAttachment

-- A bound for the number of steps until all calls have ended. A timeline that goes away takes
-- one notification.
def cost (e : Engine) : Nat :=
  let room := e.room
  e.stack.foldr (fun frame n => frameCost room frame + n) 0 +
    e.queries.foldr (fun query n =>
      5 * query.registry.waiting.length +
        (if query.registry.pending.isSome then roundCost room else 0) + n) 0 +
    e.timelines.countP (0 < ·.holders) * (roundCost room + 2)

-- Takes at most so many steps.
def advance : Nat → Engine → Engine
  | 0, e => e
  | steps + 1, e =>
      match e.step with
      | some e => advance steps e
      | none => e

-- Goes on until all calls have ended, or somebody outside has control.
def run (e : Engine) : Engine := e.advance e.cost

end FilteredFeed.Engine
