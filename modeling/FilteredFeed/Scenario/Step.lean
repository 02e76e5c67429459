import FilteredFeed.Scenario.Perform

namespace FilteredFeed.Scenario

open FilteredFeed.Engine FilteredFeed.Feed FilteredFeed.Listener FilteredFeed.Timeline

variable [Patterns]

-- An observer is called, and follows the next part of its script.
def enter (s : Scenario) (o : ObserverId) (revision : Nat) : Scenario :=
  match s.observers[o]? with
  | none => s.on (·.leaveObserver)
  | some observer =>
      let call : RunningCall :=
        { record := s.records.length
          rest := observer.script.headD []
          depth := s.engine.stack.length }
      { s with
        observers := s.observers.set o { observer with script := observer.script.tail }
        records := s.records ++ [{ name := observer.name, revision }]
        calls := call :: s.calls }

-- Goes on with the engine, and with observers that have nothing to do.
def advance : Nat → Scenario → Scenario
  | 0, s => s
  | rounds + 1, s =>
      let s := s.on Engine.run
      match s.engine.stack, s.calls with
      | .observer o revision :: _, [] => advance rounds (s.enter o revision)
      | .observer o revision :: _, call :: outer =>
          if call.depth ≠ s.engine.stack.length then advance rounds (s.enter o revision)
          else if call.rest.isEmpty then
            advance rounds { s.on (·.leaveObserver) with calls := outer }
          else s
      | _, _ => s

-- Does the next action of the observer that has control.
def act? (s : Scenario) : Option Scenario :=
  match s.calls with
  | ⟨record, a :: rest, depth⟩ :: outer =>
      let (reply, s) := ({ s with calls := ⟨record, rest, depth⟩ :: outer } : Scenario).perform a
      some { s with
        records := s.records.modify record fun record =>
          { record with replies := record.replies ++ [reply] } }
  | _ => none

def runCalls : Nat → Scenario → Scenario
  | 0, s => s
  | actions + 1, s =>
      let s := s.advance (s.engine.cost + 1)
      match s.act? with
      | some s => runCalls actions s
      | none => s

-- How many actions observers can still do.
def weight (s : Scenario) : Nat :=
  s.observers.foldr (fun observer n => Scripted.weightOfScript observer.script + n) 0 +
    s.calls.foldr (fun call n => Scripted.weightOfCall call.rest + n) 0

-- Goes on until all calls have ended.
def run (s : Scenario) : Scenario := s.runCalls (s.weight + 1)

-- Begins an operation and goes on until it has ended or waits at a gate.
def begin (s : Scenario) (start : Engine → OperationId × Engine) : OperationId × Scenario :=
  let (o, engine) := start s.engine
  (o, ((({ s with engine } : Scenario).run).resume o).run)

-- Keeps an operation that waits under a name. One that had the name is dropped.
def keep (s : Scenario) (name : String) (o : OperationId) : Scenario :=
  match s.operationReply o with
  | .pending =>
      let s :=
        match s.operationNames.lookup name with
        | some old => (s.on (·.cancel old)).run
        | none => s
      { s with operationNames := s.operationNames.insert name o }
  | _ => s

-- Does an action and all that follows from it.
def step (s : Scenario) (a : Scripted Action) : Reply × Scenario :=
  match a.action with
  | .activate timeline hasRuntime =>
      s.onTimeline timeline fun t =>
        let (o, s) := s.begin fun e => e.startActivation t hasRuntime
        (s.operationReply o, s)
  | .fetch timeline before limit =>
      s.onTimeline timeline fun t =>
        let (o, s) := s.begin fun e => e.startPage t before limit
        (s.operationReply o, s)
  | .startActivation name timeline =>
      s.onTimeline timeline fun t =>
        let (o, s) := s.begin fun e => e.startActivation t true
        (s.operationReply o, s.keep name o)
  | .startFetch name timeline before limit =>
      s.onTimeline timeline fun t =>
        let (o, s) := s.begin fun e => e.startPage t before limit
        (s.operationReply o, s.keep name o)
  | .poll name =>
      match s.operationNames.lookup name with
      | none => (.nothing, s)
      | some o =>
          let s := (s.resume o).run
          match s.operationReply o with
          | .pending => (.pending, s)
          | reply => (reply, { s with operationNames := s.operationNames.erase name })
  | .cancel name =>
      match s.operationNames.lookup name with
      | none => (.flag false, s)
      | some o =>
          (.flag true,
           ({ s.on (·.cancel o) with
              operationNames := s.operationNames.erase name } : Scenario).run)
  | .settle =>
      let s := s.settle
      (.subscribers <| s.streamNames.map fun (name, id) =>
        let channel := s.engine.channel id
        (name, if channel.closed then none else some channel.receiverCount), s)
  | _ =>
      let (reply, s) := s.perform a
      (reply, s.run)

-- What there is to see of a timeline after an action, with what is new since the one before.
structure TimelineView where
  name : String
  timeline : Timeline
  queryText : String
  -- how many events were lost, if any were
  lagged : Option Nat
  events : List Event
  notified : List ItemId

structure View where
  timelines : List TimelineView
  -- revision, whether it is active, listeners and compilations
  queries : List (String × Nat × Bool × Nat × Nat)
  storages : List (String × GatedStorage)
  records : List CallRecord

-- Events reach a subscriber through a channel. If there are more than it holds, the oldest ones
-- are lost.
def viewTimeline (s : Scenario) (name : String) (t : TimelineId) : TimelineView × Scenario :=
  let (filter, engine) := s.engine.currentFilter t
  let timeline := engine.timeline t
  let (events, notified) := s.shown[t]?.getD (0, 0)
  let fresh := timeline.events.length - events
  let capacity := roundUp (max timeline.config.eventCapacity 1)
  ({ name, timeline
     queryText := filter.queryText
     lagged := if capacity < fresh then some (fresh - capacity) else none
     events := (timeline.events.take (min fresh capacity)).reverse
     notified := (timeline.notified.take (timeline.notified.length - notified)).reverse },
   { s with
     engine
     shown := s.shown.set t (timeline.events.length, timeline.notified.length) })

def viewTimelines : Table TimelineId → Scenario → List TimelineView × Scenario
  | [], s => ([], s)
  | (name, t) :: rest, s =>
      let (view, s) := s.viewTimeline name t
      let (views, s) := viewTimelines rest s
      (view :: views, s)

-- Asking a timeline for its filter compiles a query that has changed, so that timelines come first.
def view (s : Scenario) : View × Scenario :=
  let (timelines, s) := viewTimelines s.timelineNames s
  ({ timelines
     queries := s.queryNames.map fun (name, q) =>
       let query := s.engine.query q
       (name, query.revision, query.isActive, s.engine.listenerCount q, query.compilations)
     storages := s.storageNames.map fun (name, id) => (name, s.storage id)
     records := s.records },
   { s with records := [] })

end FilteredFeed.Scenario
