import FilteredFeed.Engine.Materialize
import FilteredFeed.Proofs.Engine.Feeding
import FilteredFeed.Proofs.Feed.Storage

namespace FilteredFeed.Engine

open FilteredFeed.Feed FilteredFeed.Filter FilteredFeed.Timeline

variable [Patterns]

-- The first activation of a timeline that has a query and a stream for itself.

variable (expr : Expr) (source : Option String) (config : Config) (capacity : Nat) (hasSink : Bool)

def lone : Engine :=
  let (q, e) := ({} : Engine).addQuery { expr, source }
  let (s, e) := e.addChannel capacity
  (e.addTimeline config 0 s (some q) hasSink).2

-- The engine during the activation and after it.
def solo (query : Query Target) (T : Timeline) (status : Status) (stack : List Frame) : Engine :=
  { queries := [query]
    channels := [(Channel.ofCapacity capacity).subscribe 0]
    timelines := [T]
    tasks := [{ job := .pump 0 0 }]
    ready := [0]
    operations := [⟨0, .activation, status⟩]
    stack }

-- The query and the timeline while storage is asked for the first items.
def queried : Query Target :=
  { expr, source
    compiled := some expr.compile
    activations := 1
    compilations := 1
    registry := { subscriptions := [(1, .timeline 0)], nextId := 2 } }

def attached : Timeline :=
  { config, hasSink
    holders := 2
    phase := .activating
    query := some 0
    activated := some 0
    subscription := some (0, 1)
    compiled := expr.compile
    compiledRevision := some 0
    buffer := .empty config.maxItems
    generation := 1
    pump := some 0
    hasRuntime := true }

-- The timeline with its first items.
def supplied (items : List Item) (events : List Event) : Timeline :=
  { attached expr config hasSink with
    holders := 1
    phase := .active
    buffer := ((Buffer.empty config.maxItems).merge items).1
    events }

theorem live_supplied (items : List Item) (events : List Event) :
    (supplied expr config hasSink items events).Live expr config :=
  ⟨rfl, Nat.one_pos, rfl, rfl, rfl, rfl, Buffer.maxItems_merge ..,
    Buffer.length_merge (.empty config.maxItems) _, nofun⟩

theorem run_lone :
    ((lone expr source config capacity hasSink).startActivation 0 true).2.run =
      solo capacity (queried expr source) (attached expr config hasSink)
        (.waiting (order expr config)) [] := by
  have hstart : ((lone expr source config capacity hasSink).startActivation 0 true).2 =
      solo capacity { queried expr source with activations := 0, registry := {} }
        { attached expr config hasSink with activated := none, subscription := none } .running
        [.activate 0, .attach 0 0 0 (.activation 0 1)] := rfl
  rw [hstart]
  rfl

theorem complete_solo (items : List Item) :
    ∃ events, (solo capacity (queried expr source) (attached expr config hasSink)
        (.waiting (order expr config)) []).complete 0 (.ok items) =
      solo capacity (queried expr source) (supplied expr config hasSink items events)
        (.done (.ok .activated)) [] := by
  obtain ⟨events, habsorb⟩ :=
    absorb_eq { attached expr config hasSink with phase := .active } items
  refine ⟨events, ?_⟩
  change (solo capacity (queried expr source)
    (absorb { attached expr config hasSink with phase := .active } items).1 .running []).close 0
      (.done (.ok .activated)) = _
  rw [habsorb]
  rfl

theorem run_of_nil {e : Engine} (h : e.stack = []) : e.run = e := by
  have hstep : e.step = none := by simp [step, h]
  unfold run
  cases e.cost with
  | zero => rfl
  | succ n => simp [advance, hstep]

-- An activation that waits goes on with the answer of storage.
theorem activateOn_of_waiting {e e' : Engine} {t t' : TimelineId} {kind : OperationKind}
    {request : FetchRequest} (storage : Storage) (hrun : (e.startActivation t true).2.run = e')
    (hwaits : e'.operations[(e.startActivation t true).1]? = some ⟨t', kind, .waiting request⟩) :
    (e.activateOn t storage).2 = (e'.complete (e.startActivation t true).1
      (storage.query request.text request.before (some request.limit)).1).run := by
  unfold activateOn
  dsimp only
  rw [hrun, hwaits]
  split <;> rfl

-- Storage is asked once, and its answer is all that the buffer holds.
theorem activateOn_lone (storage : Storage) :
    ∃ events, ((lone expr source config capacity hasSink).activateOn 0 storage).2 =
      solo capacity (queried expr source)
        (supplied expr config hasSink (storage.newest expr config.backfillCount) events)
        (.done (.ok .activated)) [] := by
  have hfirst : ((lone expr source config capacity hasSink).startActivation 0 true).1 = 0 := rfl
  have hactivated :=
    activateOn_of_waiting storage (run_lone expr source config capacity hasSink) rfl
  obtain ⟨events, hcomplete⟩ := complete_solo expr source config capacity hasSink
    (storage.newest expr config.backfillCount)
  have hquery : (storage.query (order expr config).text (order expr config).before
      (some (order expr config).limit)).1 = .ok (storage.newest expr config.backfillCount) :=
    Storage.query_compile ..
  rw [hquery, hfirst, hcomplete, run_of_nil (by rfl)] at hactivated
  exact ⟨events, hactivated⟩

-- Nothing has come from the stream yet.
theorem feeds_solo (query : Query Target) (status : Status) (hrevision : query.revision = 0)
    (items : List Item) (events : List Event) :
    (solo capacity query (supplied expr config hasSink items events) status []).Feeds
      expr config [] := by
  refine ⟨rfl, Nat.one_pos, live_supplied .., ?_, Nat.one_pos, Channel.brings_subscribe ..,
    ⟨⟨false, rfl⟩, fun k task htask hk => ?_⟩⟩
  · change (some query.revision != some 0) = false
    rw [hrevision]
    rfl
  · obtain ⟨j, rfl⟩ := Nat.exists_eq_succ_of_ne_zero hk
    cases htask

end FilteredFeed.Engine
