import FilteredFeed.Proofs.Engine.State

namespace FilteredFeed.Engine

open FilteredFeed.Feed FilteredFeed.Filter FilteredFeed.Listener FilteredFeed.Timeline

variable [Patterns]
variable {e e' e'' : Engine} {t : TimelineId}

-- What is done to a timeline in one go leaves all calls, all operations and all other timelines
-- as they are.
structure Apart (t : TimelineId) (e e' : Engine) : Prop where
  stack : e'.stack = e.stack
  operations : e'.operations = e.operations
  size : e'.timelines.length = e.timelines.length
  others : ∀ t', t' ≠ t → e'.timeline t' = e.timeline t'

-- Mostly the queries stay too, but for what they remember.
structure Within (t : TimelineId) (e e' : Engine) : Prop extends Apart t e e' where
  range : e'.queries.length = e.queries.length
  query : ∀ q, (e.query q).Remembers (e'.query q)

theorem Apart.refl (t : TimelineId) (e : Engine) : Apart t e e := ⟨rfl, rfl, rfl, fun _ _ => rfl⟩

theorem Apart.trans (h : Apart t e e') (h' : Apart t e' e'') : Apart t e e'' :=
  ⟨h'.stack.trans h.stack, h'.operations.trans h.operations, h'.size.trans h.size,
    fun t' ht => (h'.others t' ht).trans (h.others t' ht)⟩

theorem Within.refl (t : TimelineId) (e : Engine) : Within t e e :=
  ⟨.refl t e, rfl, fun _ => .refl _⟩

theorem Within.trans (h : Within t e e') (h' : Within t e' e'') : Within t e e'' :=
  ⟨h.toApart.trans h'.toApart, h'.range.trans h.range, fun q => (h.query q).trans (h'.query q)⟩

theorem Background.within (h : Background e e') (t : TimelineId) : Within t e e' where
  stack := h.stack
  operations := h.operations
  size := by rw [h.timelines]
  others t' _ := h.timeline t'
  range := by rw [h.queries]
  query q := by rw [h.query q]; exact .refl _

theorem within_modifyTimeline (e : Engine) (t : TimelineId) (f : Timeline → Timeline) :
    Within t e (e.modifyTimeline t f) :=
  ⟨⟨rfl, rfl, by simp [modifyTimeline], fun _ h => timeline_modifyTimeline_ne h f⟩, rfl,
    fun _ => .refl _⟩

theorem within_spawn (e : Engine) (t : TimelineId) (job : Job) : Within t e (e.spawn job).2 :=
  ⟨⟨rfl, rfl, rfl, fun _ _ => rfl⟩, rfl, fun _ => .refl _⟩

theorem within_compile (e : Engine) (t : TimelineId) (q : QueryId) :
    Within t e (e.compile q).2.2 := by
  refine ⟨⟨rfl, rfl, rfl, fun _ _ => rfl⟩, by simp [Engine.compile, modifyQuery], fun q' => ?_⟩
  rcases query_modifyQuery e q q' (fun _ => (e.query q).compile.2) with h | ⟨rfl, h⟩
  · exact h ▸ .refl _
  · exact h ▸ (e.query q').remembers_compile

-- Applying the filter of the query.

-- The filter that a timeline is to apply, and the revision it belongs to.
def current (e : Engine) (t : TimelineId) : CompiledFilter × Option Nat :=
  match (e.timeline t).query with
  | some q => ((e.query q).compile.1, some (e.query q).revision)
  | none => (.contradiction, none)

theorem within_recompile (e : Engine) (t : TimelineId) : Within t e (e.recompile t) := by
  unfold recompile
  split
  · exact (within_compile e t _).trans (within_modifyTimeline ..)
  · exact within_modifyTimeline ..

theorem timeline_recompile (ht : t < e.timelines.length) :
    (e.recompile t).timeline t =
      { e.timeline t with
        compiled := (e.current t).1
        compiledRevision := (e.current t).2 } := by
  unfold recompile current
  generalize hq : (e.timeline t).query = query
  cases query with
  | some q =>
      have hrevision : (e.compile q).2.1 = (e.query q).revision :=
        (e.query q).remembers_compile.revision
      have h := timeline_modifyTimeline_self (e := (e.compile q).2.2) ht fun timeline =>
        { timeline with compiled := (e.compile q).1, compiledRevision := some (e.compile q).2.1 }
      refine h.trans ?_
      rw [hrevision]
      rfl
  | none => exact timeline_modifyTimeline_self ht _

theorem jobs_recompile (e : Engine) (t : TimelineId) : (e.recompile t).jobs = e.jobs := by
  unfold recompile
  split <;> rfl

theorem recompile_of_le (h : e.timelines.length ≤ t) : e.recompile t = e := by
  unfold recompile
  rw [timeline_of_le h]
  exact modifyTimeline_of_le h _

theorem current_congr (hq : (e'.timeline t).query = (e.timeline t).query)
    (h : e'.queries = e.queries) : e'.current t = e.current t := by
  unfold current query
  rw [hq, h]

-- What a timeline asks for when its buffer is filled again.
def refill (timeline : Timeline) : FetchRequest :=
  { text := timeline.compiled.queryText
    before := none
    limit := timeline.config.backfillCount
    generation := timeline.generation }

theorem within_startRefetch (e : Engine) (t : TimelineId) : Within t e (e.startRefetch t) := by
  unfold startRefetch
  dsimp only
  split
  · refine Within.trans ?_ (within_modifyTimeline ..)
    exact ((background_abort? e _).within t).trans (within_spawn ..)
  · exact .refl t e

theorem timeline_startRefetch (ht : t < e.timelines.length) :
    (e.startRefetch t).timeline t =
      { e.timeline t with
        refetch :=
          if (e.timeline t).hasRuntime then some e.tasks.length else (e.timeline t).refetch } := by
  unfold startRefetch
  dsimp only
  have hb := background_abort? e (e.timeline t).refetch
  generalize e.abort? (e.timeline t).refetch = e' at hb ⊢
  have hlen : e'.tasks.length = e.tasks.length := by
    simpa [jobs] using congrArg List.length hb.jobs
  split
  · rw [timeline_modifyTimeline_self (hb.timelines ▸ ht)]
    rw [show (e'.spawn _).2.timeline t = e.timeline t from hb.timeline t]
    simp only [spawn, hlen]
  · rfl

theorem jobs_startRefetch (e : Engine) (t : TimelineId) :
    (e.startRefetch t).jobs =
      e.jobs ++ if (e.timeline t).hasRuntime then [.refetch t (refill (e.timeline t))] else [] := by
  unfold startRefetch
  dsimp only
  split
  · change (spawn _ _).2.jobs = _
    rw [jobs_spawn, (background_abort? e _).jobs]
    rfl
  · simp

-- Clearing and filling again.

def emptied (timeline : Timeline) : Timeline :=
  { timeline with
    generation := timeline.generation + 1
    caughtUp := none
    unread := 0
    refetch := none
    buffer := timeline.buffer.clear.1 }

-- A timeline that was emptied and has applied a filter.
def renewed (timeline : Timeline) (applied : CompiledFilter × Option Nat) : Timeline :=
  { emptied timeline with
    compiled := applied.1
    compiledRevision := applied.2
    phase := if timeline.phase.isActive then .invalidated else timeline.phase }

-- A timeline is emptied and has applied the filter of its query, but nothing is asked for yet.
def restart (e : Engine) (t : TimelineId) : Engine :=
  ((e.abort? (e.timeline t).refetch).modifyTimeline t emptied).recompile t

theorem modifyTimeline_emptied (e : Engine) (t : TimelineId) :
    (e.modifyTimeline t fun timeline =>
      { timeline with
        generation := timeline.generation + 1
        caughtUp := none
        unread := 0
        refetch := none
        buffer := (e.timeline t).buffer.clear.1 }) = e.modifyTimeline t emptied :=
  modifyTimeline_congr rfl

theorem within_restart (e : Engine) (t : TimelineId) : Within t e (e.restart t) := by
  unfold restart
  refine Within.trans (Within.trans ?_ (within_modifyTimeline ..)) (within_recompile ..)
  exact (background_abort? e _).within t

theorem timeline_restart (ht : t < e.timelines.length) :
    (e.restart t).timeline t =
      { emptied (e.timeline t) with
        compiled := (e.current t).1
        compiledRevision := (e.current t).2 } := by
  have hb := background_abort? e (e.timeline t).refetch
  unfold restart
  generalize e.abort? (e.timeline t).refetch = e' at hb ⊢
  have ht' : t < e'.timelines.length := hb.timelines ▸ ht
  have hT : (e'.modifyTimeline t emptied).timeline t = emptied (e.timeline t) := by
    rw [timeline_modifyTimeline_self ht', hb.timeline]
  have hc : (e'.modifyTimeline t emptied).current t = e.current t :=
    current_congr (by rw [hT]; rfl) hb.queries
  rw [timeline_recompile (by simpa [modifyTimeline] using ht'), hc, hT]

theorem jobs_restart (e : Engine) (t : TimelineId) : (e.restart t).jobs = e.jobs := by
  unfold restart
  rw [jobs_recompile]
  exact (background_abort? e _).jobs

theorem restart_of_le (h : e.timelines.length ≤ t) : e.restart t = e := by
  unfold restart
  rw [timeline_of_le h, show e.abort? (default : Timeline).refetch = e from rfl,
    modifyTimeline_of_le h, recompile_of_le h]

theorem phase_restart (e : Engine) (t : TimelineId) :
    ((e.restart t).timeline t).phase = (e.timeline t).phase := by
  by_cases ht : t < e.timelines.length
  · rw [timeline_restart ht]
    rfl
  · rw [restart_of_le (Nat.le_of_not_lt ht)]

-- An active timeline is emptied and has applied the filter, and is to be filled again.
def restartActive (e : Engine) (t : TimelineId) : Engine :=
  (e.restart t).modifyTimeline t fun timeline => { timeline with phase := .invalidated }

theorem within_restartActive (e : Engine) (t : TimelineId) : Within t e (e.restartActive t) :=
  (within_restart e t).trans (within_modifyTimeline ..)

theorem timeline_restartActive (ht : t < e.timelines.length)
    (hactive : (e.timeline t).phase.isActive = true) :
    (e.restartActive t).timeline t = renewed (e.timeline t) (e.current t) := by
  unfold restartActive
  rw [timeline_modifyTimeline_self ((within_restart e t).size ▸ ht), timeline_restart ht]
  simp [renewed, hactive]

theorem jobs_restartActive (e : Engine) (t : TimelineId) : (e.restartActive t).jobs = e.jobs :=
  jobs_restart e t

theorem invalidateQuietly_eq (e : Engine) (t : TimelineId) :
    e.invalidateQuietly t =
      ((e.timeline t).buffer.clear.2,
        if (e.timeline t).phase.isActive then (e.restartActive t).startRefetch t
        else e.restart t) := by
  rw [← phase_restart]
  have hb := background_abort? e (e.timeline t).refetch
  unfold invalidateQuietly restartActive restart
  dsimp only
  generalize e.abort? (e.timeline t).refetch = e' at hb ⊢
  rw [modifyTimeline_emptied, hb.timeline t]
  split <;> rfl

theorem within_invalidateQuietly (e : Engine) (t : TimelineId) :
    Within t e (e.invalidateQuietly t).2 := by
  rw [invalidateQuietly_eq]
  dsimp only
  split
  · exact (within_restartActive e t).trans (within_startRefetch ..)
  · exact within_restart e t

theorem invalidateQuietly_of_le (h : e.timelines.length ≤ t) : (e.invalidateQuietly t).2 = e := by
  rw [invalidateQuietly_eq, restart_of_le h, timeline_of_le h]
  rfl

theorem timeline_invalidateQuietly (ht : t < e.timelines.length) :
    (e.invalidateQuietly t).2.timeline t =
      { renewed (e.timeline t) (e.current t) with
        refetch :=
          if (e.timeline t).phase.isActive && (e.timeline t).hasRuntime then some e.tasks.length
          else none } := by
  rw [invalidateQuietly_eq]
  by_cases hactive : (e.timeline t).phase.isActive = true
  · have hlen := congrArg List.length (jobs_restartActive e t)
    simp only [jobs, List.length_map] at hlen
    simp only [hactive, if_true]
    rw [timeline_startRefetch ((within_restartActive e t).size ▸ ht),
      timeline_restartActive ht hactive, hlen]
    cases hr : (e.timeline t).hasRuntime <;> simp [renewed, emptied, hr]
  · simp only [hactive]
    refine (timeline_restart ht).trans ?_
    simp [renewed, emptied, hactive]

theorem jobs_invalidateQuietly (e : Engine) (t : TimelineId) :
    (e.invalidateQuietly t).2.jobs =
      e.jobs ++
        if (e.timeline t).phase.isActive && (e.timeline t).hasRuntime then
          [.refetch t (refill ((e.invalidateQuietly t).2.timeline t))]
        else [] := by
  by_cases ht : t < e.timelines.length
  · rw [timeline_invalidateQuietly ht, invalidateQuietly_eq]
    by_cases hactive : (e.timeline t).phase.isActive = true
    · simp only [hactive, if_true]
      rw [jobs_startRefetch, timeline_restartActive ht hactive, jobs_restartActive]
      cases hr : (e.timeline t).hasRuntime <;> simp [renewed, emptied, refill, hr]
    · simp [hactive, jobs_restart]
  · have hle := Nat.le_of_not_lt ht
    rw [invalidateQuietly_of_le hle, timeline_of_le hle]
    exact (List.append_nil _).symm

theorem within_emit (e : Engine) (t : TimelineId) (delta : Delta) : Within t e (e.emit t delta) :=
  within_modifyTimeline ..

theorem within_invalidateNow (e : Engine) (t : TimelineId) : Within t e (e.invalidateNow t) :=
  (within_invalidateQuietly e t).trans (within_emit ..)

theorem within_onInvalidated (e : Engine) (t : TimelineId) (revision : Nat) :
    Within t e (e.onInvalidated t revision) := by
  unfold onInvalidated
  dsimp only
  split
  · exact .refl t e
  · split
    · split
      · split
        · exact within_modifyTimeline ..
        · exact .refl t e
      · exact within_invalidateNow e t
    · exact within_invalidateNow e t

theorem within_refresh (e : Engine) (t : TimelineId) : Within t e (e.refresh t) := by
  unfold refresh
  split
  · exact within_invalidateNow e t
  · exact .refl t e

-- What a live item makes a timeline apply before the item is tested.
def catchUp (e : Engine) (t : TimelineId) : Engine :=
  if e.isStale t then
    ((e.invalidateQuietly t).2.modifyTimeline t fun timeline =>
      { timeline with caughtUp := timeline.compiledRevision }).emit t (e.invalidateQuietly t).1
  else e

theorem within_catchUp (e : Engine) (t : TimelineId) : Within t e (e.catchUp t) := by
  unfold catchUp
  split
  · exact ((within_invalidateQuietly e t).trans (within_modifyTimeline ..)).trans (within_emit ..)
  · exact .refl t e

theorem emit_nothing (e : Engine) (t : TimelineId) : e.emit t {} = e := by
  have h : (fun timeline : Timeline => timeline.emit {}) = id := by
    funext timeline
    rfl
  simp only [emit, modifyTimeline, h, List.modify_id]

theorem offer_eq (e : Engine) (t : TimelineId) (item : Item) :
    e.offer t item =
      if !(e.timeline t).phase.isActive then (false, e)
      else if ((e.catchUp t).timeline t).compiled.accepts item then
        (true, (e.catchUp t).modifyTimeline t (·.receive item))
      else (false, e.catchUp t) := by
  unfold offer catchUp
  by_cases hs : e.isStale t = true
  · simp only [hs, if_true]
  · simp only [hs, Bool.false_eq_true, if_false, emit_nothing]

theorem within_offer (e : Engine) (t : TimelineId) (item : Item) :
    Within t e (e.offer t item).2 := by
  rw [offer_eq]
  split
  · exact .refl t e
  · split
    · exact (within_catchUp e t).trans (within_modifyTimeline ..)
    · exact within_catchUp e t

-- Taking back a subscription, and with it everything that keeps a timeline active.

theorem apart_dropSubscription (e : Engine) (t : TimelineId)
    (subscription : Option (QueryId × SubscriptionId)) :
    Apart t e (e.dropSubscription subscription) := by
  cases subscription with
  | none => exact .refl t e
  | some s => exact ⟨rfl, rfl, rfl, fun _ _ => rfl⟩

theorem timeline_dropSubscription (e : Engine) (t : TimelineId)
    (subscription : Option (QueryId × SubscriptionId)) :
    (e.dropSubscription subscription).timeline t = e.timeline t := by
  cases subscription <;> rfl

theorem apart_unsubscribe (e : Engine) (t : TimelineId) : Apart t e (e.unsubscribe t) :=
  (apart_dropSubscription e t _).trans (within_modifyTimeline ..).toApart

theorem timeline_unsubscribe (ht : t < e.timelines.length) :
    (e.unsubscribe t).timeline t = { e.timeline t with subscription := none } := by
  have hs := (apart_dropSubscription e t (e.timeline t).subscription).size
  unfold unsubscribe
  rw [timeline_modifyTimeline_self (hs ▸ ht), timeline_dropSubscription]

-- A timeline whose background work was stopped.
def stopped (timeline : Timeline) : Timeline :=
  { timeline with
    subscription := none
    generation := timeline.generation + 1
    epoch := timeline.epoch + 1
    pump := none
    refetch := none
    phase := .inactive
    activated := none }

-- The background work of a timeline is aborted.
def abortWork (e : Engine) (t : TimelineId) : Engine :=
  (e.abort? (e.timeline t).pump).abort? (e.timeline t).refetch

theorem background_abortWork (e : Engine) (t : TimelineId) : Background e (e.abortWork t) :=
  (background_abort? e _).trans (background_abort? _ _)

-- A timeline has no background work and no subscription any more.
def endWork (e : Engine) (t : TimelineId) : Engine :=
  (e.abortWork t).dropSubscription (e.timeline t).subscription

theorem apart_endWork (e : Engine) (t : TimelineId) : Apart t e (e.endWork t) :=
  ((background_abortWork e t).within t).toApart.trans (apart_dropSubscription ..)

theorem timeline_endWork (e : Engine) (t t' : TimelineId) :
    (e.endWork t).timeline t' = e.timeline t' := by
  unfold endWork
  rw [timeline_dropSubscription, (background_abortWork e t).timeline]

theorem teardown_eq (e : Engine) (t : TimelineId) :
    e.teardown t = ((e.timeline t).activated, (e.endWork t).modifyTimeline t stopped) := by
  unfold teardown unsubscribe endWork
  dsimp only
  rw [← abortWork, (background_abortWork e t).timeline t]
  simp only [modifyTimeline, List.modify_modify_eq]
  rfl

theorem apart_teardown (e : Engine) (t : TimelineId) : Apart t e (e.teardown t).2 := by
  rw [teardown_eq]
  exact (apart_endWork e t).trans (within_modifyTimeline ..).toApart

theorem timeline_teardown (ht : t < e.timelines.length) :
    (e.teardown t).2.timeline t = stopped (e.timeline t) := by
  rw [teardown_eq]
  dsimp only
  rw [timeline_modifyTimeline_self ((apart_endWork e t).size ▸ ht), timeline_endWork]

-- Whether a timeline has one holder left.
def isLastHold (e : Engine) (t : TimelineId) : Bool :=
  e.timelines[t]?.any fun timeline => timeline.holders == 1

def dropHold (e : Engine) (t : TimelineId) : Engine :=
  e.modifyTimeline t fun timeline => { timeline with holders := timeline.holders - 1 }

theorem timeline_dropHold (e : Engine) (t t' : TimelineId) :
    (e.dropHold t).timeline t' =
      { e.timeline t' with holders := ((e.dropHold t).timeline t').holders } := by
  rcases timeline_modifyTimeline e t t' fun timeline =>
    { timeline with holders := timeline.holders - 1 } with hT | ⟨rfl, hT⟩
  · rw [dropHold, hT]
  · rw [dropHold, hT]

theorem release_eq (e : Engine) (t : TimelineId) :
    e.release (.timeline t) =
      if e.isLastHold t then
        ((e.dropHold t).teardown t).2.push (deactivations ((e.dropHold t).timeline t).activated)
      else e.dropHold t := rfl

theorem timeline_release_ne {t' : TimelineId} (h : t' ≠ t) :
    (e.release (.timeline t)).timeline t' = e.timeline t' := by
  rw [release_eq]
  split
  · exact ((apart_teardown _ t).others t' h).trans (timeline_modifyTimeline_ne h _)
  · exact timeline_modifyTimeline_ne h _

-- Holding a timeline changes nothing else of any timeline.
theorem timeline_retain (e : Engine) (t t' : TimelineId) :
    ∃ holders, (e.retain (.timeline t)).timeline t' = { e.timeline t' with holders } := by
  rcases timeline_modifyTimeline e t t' fun timeline =>
    { timeline with holders := timeline.holders + 1 } with h | ⟨rfl, h⟩
  · exact ⟨_, h⟩
  · exact ⟨_, h⟩

-- Whether a timeline is stale depends on its query, on the revision it has applied, and on the
-- revisions there are.
theorem isStale_congr (hq : (e'.timeline t).query = (e.timeline t).query)
    (hr : (e'.timeline t).compiledRevision = (e.timeline t).compiledRevision)
    (h : ∀ q, (e'.query q).revision = (e.query q).revision) : e'.isStale t = e.isStale t := by
  simp only [isStale, hq, hr, h]

-- A timeline that has been subscribed to a query.
def enrol (e : Engine) (t : TimelineId) (q : QueryId) : Engine :=
  ((e.modifyQuery q fun query =>
      { query with registry := ((e.query q).registry.subscribe (.timeline t)).2 }).unsubscribe
    t).modifyTimeline t fun timeline =>
      { timeline with
        subscription := some (q, (e.query q).registry.nextId)
        activated := some q }

theorem attach_eq (e : Engine) (t : TimelineId) (q : QueryId) (epoch : Nat) (purpose : Purpose) :
    e.attach t q epoch purpose =
      if (e.timeline t).epoch ≠ epoch then
        match purpose with
        | .swap => e.push [.deactivate q]
        | .activation o _ => e.push [.deactivate q, .finish o (.ok .activated)]
      else
        match purpose with
        | .swap => (e.enrol t q).refresh t
        | .activation o generation => (e.enrol t q).prepare t o generation := rfl

theorem apart_modifyQuery (e : Engine) (t : TimelineId) (q : QueryId)
    (f : Query Target → Query Target) : Apart t e (e.modifyQuery q f) :=
  ⟨rfl, rfl, rfl, fun _ _ => rfl⟩

theorem apart_enrol (e : Engine) (t : TimelineId) (q : QueryId) : Apart t e (e.enrol t q) := by
  unfold enrol
  refine Apart.trans ?_ (within_modifyTimeline ..).toApart
  exact (apart_modifyQuery ..).trans (apart_unsubscribe ..)

theorem timeline_enrol (ht : t < e.timelines.length) (q : QueryId) :
    (e.enrol t q).timeline t =
      { e.timeline t with
        subscription := some (q, (e.query q).registry.nextId)
        activated := some q } := by
  unfold enrol
  generalize he : e.modifyQuery q _ = e'
  have ht' : t < e'.timelines.length := he ▸ ht
  have hT : e'.timeline t = e.timeline t := he ▸ rfl
  rw [timeline_modifyTimeline_self ((apart_unsubscribe e' t).size ▸ ht'),
    timeline_unsubscribe ht', hT]

theorem revision_modifyQuery (e : Engine) (q q' : QueryId) {f : Query Target → Query Target}
    (h : (f (e.query q)).revision = (e.query q).revision) :
    ((e.modifyQuery q f).query q').revision = (e.query q').revision := by
  rcases query_modifyQuery e q q' f with hq | ⟨rfl, hq⟩
  · rw [hq]
  · rw [hq, h]

theorem revision_dropSubscription (e : Engine)
    (subscription : Option (QueryId × SubscriptionId)) (q : QueryId) :
    ((e.dropSubscription subscription).query q).revision = (e.query q).revision := by
  cases subscription with
  | none => rfl
  | some s => exact revision_modifyQuery e s.1 q rfl

theorem revision_enrol (e : Engine) (t : TimelineId) (q q' : QueryId) :
    ((e.enrol t q).query q').revision = (e.query q').revision := by
  unfold enrol
  refine (revision_dropSubscription _ _ q').trans ?_
  exact revision_modifyQuery e q q' rfl

theorem isStale_enrol (e : Engine) (t : TimelineId) (q : QueryId) :
    (e.enrol t q).isStale t = e.isStale t := by
  by_cases ht : t < e.timelines.length
  · have hT := timeline_enrol ht q
    exact isStale_congr (by rw [hT]) (by rw [hT]) (revision_enrol e t q)
  · have hle := Nat.le_of_not_lt ht
    have hT : (e.enrol t q).timeline t = e.timeline t := by
      rw [timeline_of_le hle, timeline_of_le ((apart_enrol e t q).size ▸ hle)]
    exact isStale_congr (by rw [hT]) (by rw [hT]) (revision_enrol e t q)

end FilteredFeed.Engine
