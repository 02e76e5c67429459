import FilteredFeed.Scenario.Background

namespace FilteredFeed.Scenario

open FilteredFeed.Feed FilteredFeed.Filter FilteredFeed.Grammar FilteredFeed.Listener
open FilteredFeed.Engine (Target TimelineId)
open FilteredFeed.Timeline (Config QueryId StorageId StreamId)

variable [Patterns]

-- Goes on with a thing of that name.
def named {α : Type} (s : Scenario) (table : Table α) (name : String)
    (go : α → Reply × Scenario) : Reply × Scenario :=
  match table.lookup name with
  | some value => go value
  | none => (.unknownName name, s)

def onQuery (s : Scenario) (name : String) (go : QueryId → Reply × Scenario) : Reply × Scenario :=
  s.named s.queryNames name go

def onTimeline (s : Scenario) (name : String) (go : TimelineId → Reply × Scenario) :
    Reply × Scenario :=
  s.named s.timelineNames name go

def onStorage (s : Scenario) (name : String) (go : StorageId → Reply × Scenario) :
    Reply × Scenario :=
  s.named s.storageNames name go

def onStream (s : Scenario) (name : String) (go : StreamId → Reply × Scenario) : Reply × Scenario :=
  s.named s.streamNames name go

-- Goes on with the query of that name, or none.
def onQuery? (s : Scenario) (name : Option String) (go : Option QueryId → Reply × Scenario) :
    Reply × Scenario :=
  match name with
  | some name => s.onQuery name fun q => go (some q)
  | none => go none

def makeQuery (s : Scenario) (name : String) (source : QuerySource) : Reply × Scenario :=
  let query : Except ReadError (Query Target) :=
    match source with
    | .text text => Query.parse text
    | .expr expr => .ok (Query.ofExpr expr)
    | .nothing => .ok {}
  match query with
  | .ok query =>
      let (q, engine) := s.engine.addQuery query
      (.nothing, { s with engine, queryNames := s.queryNames.insert name q })
  | .error e => (.readError e, s)

-- A timeline that had the name is let go.
def dropTimeline (s : Scenario) (name : String) : Bool × Scenario :=
  match s.timelineNames.lookup name with
  | some t =>
      (true, { s with
        engine := s.engine.drop t
        timelineNames := s.timelineNames.erase name })
  | none => (false, s)

def makeTimeline (s : Scenario) (name : String) (storage : StorageId) (stream : StreamId)
    (query : Option QueryId) (config : Config) (hasSink : Bool) : Scenario :=
  let (t, engine) := s.engine.addTimeline config storage stream query hasSink
  let s := ({ s with engine, shown := s.shown ++ [(0, 0)] } : Scenario).dropTimeline name |>.2
  { s with timelineNames := s.timelineNames.insert name t }

def unlisten (s : Scenario) (name : String) : Bool × Scenario :=
  match s.listenerNames.lookup name with
  | some listening =>
      (true, { s with
        engine := s.engine.unlisten listening.observer listening.query listening.subscription
        listenerNames := s.listenerNames.erase name })
  | none => (false, s)

def listen (s : Scenario) (name : String) (q : QueryId) (script : Script Action) :
    SubscriptionId × Scenario :=
  let (observer, subscription, engine) := s.engine.listen q
  let s := { s with engine, observers := s.observers ++ [({ name, script } : ScriptedObserver)] }
  let s := (s.unlisten name).2
  (subscription,
   { s with listenerNames := s.listenerNames.insert name ⟨observer, q, subscription⟩ })

def publishAll (s : StreamId) : List Item → Engine → List (Option Nat) × Engine
  | [], e => ([], e)
  | item :: items, e =>
      let (count, e) := e.publish s item
      let (counts, e) := publishAll s items e
      (count :: counts, e)

def actOnQuery (s : Scenario) (q : QueryId) : QueryAction → Reply × Scenario
  | .setSource text =>
      match s.engine.setSource q text with
      | (.ok (), engine) => (.ok, { s with engine })
      | (.error e, engine) => (.readError e, { s with engine })
  | .setExpression expr => (.ok, s.on (·.setExpression q expr))
  | .activate => (.ok, s.on (·.activateQuery q))
  | .deactivate => (.ok, s.on (·.deactivateQuery q))
  | .compile =>
      let (filter, revision, engine) := s.engine.compile q
      (.compiled filter revision, { s with engine })
  | .describe =>
      let query := s.engine.query q
      (.query query.expr query.source, s)

def actOnStorage (s : Scenario) (id : StorageId) : StorageAction → Reply × Scenario
  | .insert items =>
      let gated := s.storage id
      let storage := gated.storage.insertAll items
      (.flag storage.items.isEmpty, s.setStorage id { gated with storage })
  | .ask text before limit =>
      let gated := s.storage id
      let (result, storage) := gated.storage.query text before limit
      let s := s.setStorage id { gated with storage }
      match result with
      | .ok items => (.items items, s)
      | .error e => (.storageError e, s)
  | .failWith failure => (.nothing, s.setStorage id { s.storage id with failure })
  | .closeGate closed => (.nothing, s.setStorage id { s.storage id with closed })
  | .release =>
      let (asker, gated) := (s.storage id).release
      let s := s.setStorage id gated
      match asker with
      | some (.task k) => (.flag true, s.on (·.wake k))
      | some (.operation _) => (.flag true, s)
      | none => (.flag false, s)

def actOnStream (s : Scenario) (id : StreamId) : StreamAction → Reply × Scenario
  | .publish items =>
      let (counts, engine) := publishAll id items s.engine
      (.receivers counts, { s with engine })
  | .close => (.flag (!(s.engine.channel id).closed), s.on (·.closeStream id))

-- A timeline does not go away before a call of it has ended.
def actOnTimeline (s : Scenario) (t : TimelineId) : TimelineAction → Reply × Scenario
  | .deactivate => (.ok, s.on fun e => (e.hold t).deactivate t)
  | .invalidate => (.ok, s.on fun e => (e.hold t).invalidate t)
  | .dispose => (.ok, s.on fun e => (e.hold t).dispose t)
  | .setQuery name =>
      s.onQuery? name fun query =>
        match (s.engine.hold t).setQuery t query with
        | (.ok (), engine) => (.ok, { s with engine })
        | (.error e, engine) => (.outcome (.error e), { s with engine })
  | .arrive item =>
      let (accepted, engine) := s.engine.offer t item
      (.flag accepted, { s with engine })
  | .accepts item =>
      let (accepted, engine) := s.engine.accepts t item
      (.flag accepted, { s with engine })
  | .takeUnread =>
      let (count, engine) := s.engine.takeUnread t
      (.count count, { s with engine })
  | .texts => (.items (s.engine.timeline t).buffer.items, s)
  | .hasQuery name => s.onQuery? name fun query => (.flag ((s.engine.timeline t).query == query), s)

-- Does an action in so far as no control has to be given up for it. What the engine still has to
-- do is then on its stack.
def perform (s : Scenario) (a : Scripted Action) : Reply × Scenario :=
  match a.action with
  | .makeStorage name items =>
      (.nothing,
       { s with
         storages := s.storages ++ [{ storage := .ofList items }]
         storageNames := s.storageNames.insert name s.storages.length })
  | .makeStream name capacity =>
      let (id, engine) := s.engine.addChannel capacity
      (.nothing, { s with engine, streamNames := s.streamNames.insert name id })
  | .makeQuery name source => s.makeQuery name source
  | .makeTimeline name storage stream query config hasSink =>
      s.onStorage storage fun storage => s.onStream stream fun stream =>
        s.onQuery? query fun query =>
          (.name config.name, s.makeTimeline name storage stream query config hasSink)
  | .cloneQuery name of =>
      s.onQuery of fun q => (.nothing, { s with queryNames := s.queryNames.insert name q })
  | .sameQuery left right =>
      s.onQuery left fun q => s.onQuery right fun r => (.flag (q == r), s)
  | .dropQuery name =>
      (.flag (s.queryNames.lookup name).isSome, { s with queryNames := s.queryNames.erase name })
  | .dropTimeline name =>
      let (existed, s) := s.dropTimeline name
      (.flag existed, s)
  | .listen name query =>
      s.onQuery query fun q =>
        let (subscription, s) := s.listen name q a.script
        (.subscription subscription, s)
  | .unlisten name =>
      let (existed, s) := s.unlisten name
      (.flag existed, s)
  | .query name action => s.onQuery name fun q => s.actOnQuery q action
  | .storage name action => s.onStorage name fun id => s.actOnStorage id action
  | .stream name action => s.onStream name fun id => s.actOnStream id action
  | .timeline name action => s.onTimeline name fun t => s.actOnTimeline t action
  | .activate .. | .fetch .. | .startActivation .. | .startFetch .. | .poll _ | .cancel _
  | .settle => (.nothing, s)

end FilteredFeed.Scenario
