import FilteredFeed.Pattern.Builtin
import FilteredFeed.Proofs.Engine.FirstFill
import FilteredFeed.Proofs.Timeline.Arrivals

namespace FilteredFeed.Engine

open FilteredFeed.Feed FilteredFeed.Filter FilteredFeed.Timeline

section

variable [Patterns]

-- A timeline that is filled from storage and then sees live items, from the text of its filter to
-- what it holds in the end.

variable {e : Engine} {expr : Expr} {config : Config} {pending : List Item}

-- The first fill of a buffer: the newest items of storage that the filter accepts.
def backfill (expr : Expr) (stored : List Item) (config : Config) : List Item :=
  ((Storage.newestFirst ((latest stored).filter expr.compile.accepts)).take
    config.backfillCount).take config.maxItems

-- What a timeline is to hold in the end.
def Materialized.reference (expr : Expr) (stored live : List Item) (config : Config) : Materialized :=
  let first := backfill expr stored config
  let accepted := live.filter expr.compile.accepts
  { name := config.name
    queryText := expr.compile.queryText
    items := held config.maxItems (first ++ accepted)
    accepted := accepted.length
    unread := if config.countUnread then some (entered config.maxItems first accepted) else none }

-- It does not matter where in storage the last item of an id stands.
theorem newest_ofList (expr : Expr) (stored : List Item) (limit : Nat) :
    (Storage.ofList stored).newest expr limit =
      (Storage.newestFirst ((latest stored).filter expr.compile.accepts)).take limit := by
  have hnewest := Storage.isNewest_newest (Storage.distinct_ofList stored) expr limit
  have hfiltered := Storage.isNewest_take ((distinct_latest stored).filter expr.compile.accepts) limit
  simp only [mem_ofList] at hnewest
  simp only [List.mem_filter] at hfiltered
  exact hnewest.unique hfiltered

-- A buffer that is empty takes what there is room for.
omit [Patterns] in
theorem items_merge_empty {bound : Nat} {items : List Item} (h : Descending items) :
    ((Buffer.empty bound).merge items).1.items = items.take bound := by
  have hmerged : IsNewest bound (· ∈ latest items) ((Buffer.empty bound).merge items).1.items :=
    Buffer.isNewest_merge (b := .empty bound) (gathers_nil bound) rfl items
  exact hmerged.unique ((gathers_self h).take h)

-- An activation reports what became of its operation.
theorem activateOn_of_done (e : Engine) (t : TimelineId) (storage : Storage) {t' : TimelineId}
    {kind : OperationKind} {outcome : Outcome} (hdone : (e.activateOn t storage).2.operations[(e.startActivation t true).1]? =
      some ⟨t', kind, .done (.ok outcome)⟩) :
    (e.activateOn t storage).1 = .ok () := by
  unfold activateOn at hdone ⊢
  dsimp only at hdone ⊢
  split
  · rename_i hfailed
    split at hdone
    · rename_i hfailed'
      rw [hdone] at hfailed'
      cases hfailed'
    · rw [hdone] at hfailed
      cases hfailed
  · rfl

theorem Feeds.accepts_offer (h : e.Feeds expr config pending) (item : Item) :
    (e.offer 0 item).1 = expr.compile.accepts item := by
  have hcatch : e.catchUp 0 = e := by simp [catchUp, h.current]
  rw [Engine.offer_eq, hcatch, h.live.phase, h.live.compiled]
  split
  · contradiction
  · split
    · rename_i haccepts
      exact haccepts.symm
    · rename_i haccepts
      exact (Bool.not_eq_true _ ▸ haccepts).symm

-- The items that the filter accepts are received in their order, and the others are left out.
theorem Feeds.offerAll (h : e.Feeds expr config pending) (live : List Item) :
    (offerAll 0 live e).1 = (live.filter expr.compile.accepts).length ∧
    (offerAll 0 live e).2.Feeds expr config pending ∧
    (offerAll 0 live e).2.timeline 0 =
      (live.filter expr.compile.accepts).foldl receive (e.timeline 0) := by
  induction live generalizing e with
  | nil => exact ⟨rfl, h, rfl⟩
  | cons item live ih =>
      obtain ⟨hcount, hfeeds, htimeline⟩ := ih (h.offer item)
      have hcons : Engine.offerAll 0 (item :: live) e =
          (if expr.compile.accepts item then (Engine.offerAll 0 live (e.offer 0 item).2).1 + 1
            else (Engine.offerAll 0 live (e.offer 0 item).2).1,
            (Engine.offerAll 0 live (e.offer 0 item).2).2) := by
        rw [← h.accepts_offer item]
        rfl
      rw [hcons]
      refine ⟨?_, hfeeds, htimeline.trans ?_⟩
      · rw [hcount]
        split
        · rename_i hitem
          rw [List.filter_cons_of_pos hitem, List.length_cons]
        · rename_i hitem
          rw [List.filter_cons_of_neg hitem]
      · rw [h.offer_eq]
        split
        · rename_i hitem
          rw [List.filter_cons_of_pos hitem, timeline_modifyTimeline_self h.timeline_lt]
          rfl
        · rename_i hitem
          rw [List.filter_cons_of_neg hitem]

theorem Feeds.currentFilter (h : e.Feeds expr config pending) :
    (e.currentFilter 0).1 = expr.compile := by
  unfold Engine.currentFilter
  rw [h.current]
  split <;> exact h.live.compiled

-- The timeline and the storage that one run makes, after the activation.
theorem activateOn_ofList (expr : Expr) (source : Option String) (config : Config) (capacity : Nat)
    (hasSink : Bool) (stored : List Item) :
    let r := (lone expr source config capacity hasSink).activateOn 0 (.ofList stored)
    r.1 = .ok () ∧ r.2.Feeds expr config [] ∧
      (r.2.timeline 0).buffer.items = backfill expr stored config ∧ (r.2.timeline 0).unread = 0 := by
  intro r
  obtain ⟨events, hactivated⟩ :=
    activateOn_lone expr source config capacity hasSink (.ofList stored)
  let start := lone expr source config capacity hasSink
  have hended : (start.activateOn 0 (.ofList stored)).2.operations[(start.startActivation 0 true).1]? =
      some ⟨0, .activation, .done (.ok .activated)⟩ := by
    rw [hactivated]
    rfl
  have hdone := activateOn_of_done start 0 (.ofList stored) hended
  have hnewest := Storage.isNewest_newest (Storage.distinct_ofList stored) expr config.backfillCount
  refine ⟨hdone, ?_⟩
  rw [hactivated]
  refine ⟨feeds_solo _ _ _ _ _ _ rfl _ _, ?_, rfl⟩
  rw [backfill, ← newest_ofList]
  exact items_merge_empty hnewest.descending

theorem descending_backfill (expr : Expr) (stored : List Item) (config : Config) :
    Descending (backfill expr stored config) := by
  have hd := Storage.descending_newestFirst ((distinct_latest stored).filter expr.compile.accepts)
  exact (hd.sublist (List.take_sublist ..)).sublist (List.take_sublist ..)

theorem isNewest_backfill (expr : Expr) (stored : List Item) (config : Config) :
    IsNewest config.maxItems (· ∈ latest (backfill expr stored config))
      (backfill expr stored config) := by
  have hd := descending_backfill expr stored config
  have hself : Gathers config.maxItems (backfill expr stored config) _ := gathers_self hd
  have hnewest := hself.take hd
  have hlength : (backfill expr stored config).length ≤ config.maxItems := List.length_take_le ..
  rwa [List.take_of_length_le hlength] at hnewest

-- Filling the timeline that is alone and offering it live items comes to the newest of what was first
-- fetched and what then arrived, each id with its last item.
theorem fill_lone (source : Option String) (stored live : List Item) :
    (lone expr source config 256 true).fill 0 stored live =
      .ok (Materialized.reference expr stored live config) := by
  obtain ⟨hdone, hfeeds, hfirst, hnone⟩ := activateOn_ofList expr source config 256 true stored
  have hconfig : ((lone expr source config 256 true).timeline 0).config = config := rfl
  unfold fill
  generalize (lone expr source config 256 true).activateOn 0 (.ofList stored) = r
    at hdone hfeeds hfirst hnone ⊢
  obtain ⟨activated, e⟩ := r
  cases hdone
  obtain ⟨haccepted, hafter, htimeline⟩ := hfeeds.offerAll live
  have hnewest := isNewest_backfill expr stored config
  obtain ⟨hitems, hunread⟩ := foldl_receive (live.filter expr.compile.accepts)
    (hfirst ▸ hnewest) hfeeds.live.maxItems
  rw [← htimeline, hfirst] at hitems
  rw [← htimeline, hnone, Nat.zero_add, hfirst, hfeeds.live.config_eq] at hunread
  simp only [bind, Except.bind, pure, Except.pure, Except.mapError, hconfig]
  rw [hafter.currentFilter, haccepted, hitems]
  unfold Materialized.reference
  split
  · rename_i hcount
    rw [hunread hcount]
  · rfl

theorem materialize_of_parse {filter : String} (stored live : List Item)
    (hparse : Expr.parse filter = .ok expr) :
    materialize filter stored live config =
      (lone expr (some filter) config 256 true).fill 0 stored live := by
  unfold materialize Query.parse
  rw [hparse]
  simp only [bind, Except.bind, pure, Except.pure, Except.mapError]
  rfl

-- A filter that can be read comes to its result wherever the event channel can be made.
theorem materialize?_of_parse (room : Nat) {filter : String} (stored live : List Item)
    (hparse : Expr.parse filter = .ok expr) :
    materialize? room filter stored live config =
      if Channel.opens room config.eventCapacity then some (materialize filter stored live config)
      else none := by
  rw [materialize_of_parse stored live hparse]
  unfold materialize? Query.parse
  rw [hparse]
  change (openTimeline? _ room config 0 0 (some 0) true).bind _ = _
  unfold openTimeline?
  split <;> rfl

-- A text that cannot be read as a filter makes a run fail. Any other makes it break off if the
-- event channel cannot be made, and otherwise the run comes to the newest of what was first fetched
-- and what then arrived.
theorem materialized_eq_reference (room : Nat) (filter : String) (stored live : List Item)
    (config : Config) :
    materialize? room filter stored live config =
      match Expr.parse filter with
      | .error cause => some (.error (.filter cause))
      | .ok expr =>
          if Channel.opens room config.eventCapacity then
            some (.ok (Materialized.reference expr stored live config))
          else none := by
  cases hparse : Expr.parse filter with
  | error cause =>
      unfold materialize? Query.parse
      rw [hparse]
      rfl
  | ok expr =>
      rw [materialize?_of_parse room stored live hparse, materialize_of_parse stored live hparse,
        fill_lone]

end

-- A text can be read as a filter, and still there is no result: of so many places no event channel
-- is made at all, or there is no memory for them.
theorem materialized_hugeChannel :
    Expr.parse "true" = .ok (.literal true) ∧
      (∀ room, materialize? room "true" [] [] { eventCapacity := 2 ^ 63 } = none) ∧
      ∀ room, room < 2 ^ 50 →
        materialize? room "true" [] [] { eventCapacity := 2 ^ 50 } = none := by
  have hparse : Expr.parse "true" = .ok (.literal true) := by cbv
  refine ⟨hparse, fun room => ?_, fun room hroom => ?_⟩
  · have hnone : Channel.opens room (2 ^ 63) = false := by
      simp [Channel.opens, Channel.maxCapacity, UInt64.size]
    rw [materialize?_of_parse room [] [] hparse, hnone]
    rfl
  · rw [materialize?_of_parse room [] [] hparse, Channel.opens_eq_false hroom]
    rfl

end FilteredFeed.Engine
