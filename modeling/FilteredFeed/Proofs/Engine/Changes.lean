import FilteredFeed.Proofs.Engine.Outcomes

namespace FilteredFeed.Engine

open FilteredFeed.Feed FilteredFeed.Filter FilteredFeed.Listener FilteredFeed.Timeline
open FilteredFeed.Scenario (Asker)

variable [Patterns]
variable {arrives : TimelineId → Item → Prop} {e e' : Engine} {t : TimelineId}

theorem asks_append {more : List Job} {a : Asker} {request : FetchRequest}
    (ho : e'.operations = e.operations) (hj : e'.jobs = e.jobs ++ more)
    (h : e'.asks a = some (t, request)) :
    e.asks a = some (t, request) ∨ Job.refetch t request ∈ more := by
  cases a with
  | operation o =>
      refine .inl ?_
      simpa only [asks, ho] using h
  | task k =>
      simp only [asks, hj, List.getElem?_append] at h ⊢
      split at h
      · rename_i job hjob
        split at hjob
        · rw [hjob]
          exact .inl h
        · obtain ⟨rfl, rfl⟩ := Prod.mk.inj (Option.some.inj h)
          exact .inr (List.mem_of_getElem? hjob)
      · cases h

theorem isCurrent_refill (e : Engine) (t : TimelineId) : e.IsCurrent t (refill (e.timeline t)) :=
  ⟨rfl, rfl⟩

-- The filter that a timeline is to apply comes from an expression.
theorem origin_current (hq : ∀ q, (e.query q).Coherent) (t : TimelineId) :
    ∃ expr : Expr, (e.current t).1 = expr.compile := by
  unfold current
  cases (e.timeline t).query with
  | some q => exact ⟨_, (hq q).compile⟩
  | none => exact ⟨.contradiction, rfl⟩

theorem hasRuntime_lt (h : (e.timeline t).hasRuntime = true) : t < e.timelines.length := by
  apply Nat.lt_of_not_le
  intro hle
  rw [timeline_of_le hle] at h
  cases h

theorem renews_renewed (arrives : Item → Prop) (T : Timeline)
    (applied : CompiledFilter × Option Nat) (refetch : Option TaskId) :
    T.Renews arrives { renewed T applied with refetch } where
  generation := Nat.lt_succ_self _
  buffer item hitem := by simp [renewed, emptied] at hitem

theorem changes_invalidateQuietly (arrives : TimelineId → Item → Prop) (e : Engine)
    (t : TimelineId) : Changes arrives e (e.invalidateQuietly t).2 := by
  have hw := within_invalidateQuietly e t
  by_cases ht : t < e.timelines.length
  · have hT := timeline_invalidateQuietly ht
    refine ⟨?_, hw.size, ?_, fun q => (hw.query q).coherent, ?_, ?_, ?_⟩
    · rw [activations, hw.stack]
      rfl
    · intro o t' ho
      rwa [owner_congr hw.operations]
    · intro t'
      by_cases h : t' = t
      · subst h
        exact .inr (hT ▸ renews_renewed _ _ _ _)
      · exact .inl (hw.others t' h ▸ .refl _ _)
    · intro hq t'
      by_cases h : t' = t
      · subst h
        rw [hT]
        exact .inr (origin_current hq t')
      · exact .inl (by rw [hw.others t' h])
    · intro a t' r hr
      rcases asks_append hw.operations (jobs_invalidateQuietly e t) hr with hr | hr
      · exact .inl hr
      · have hr : t' = t ∧ r = refill ((e.invalidateQuietly t).2.timeline t) := by
          split at hr <;> simp_all
        obtain ⟨rfl, rfl⟩ := hr
        refine .inr ⟨isCurrent_refill .., ht, .inr ?_⟩
        rw [hT]
        exact Nat.lt_succ_self _
  · rw [invalidateQuietly_of_le (Nat.le_of_not_lt ht)]
    exact (Calm.refl _ _).changes

theorem changes_invalidateNow (arrives : TimelineId → Item → Prop) (e : Engine)
    (t : TimelineId) : Changes arrives e (e.invalidateNow t) :=
  (changes_invalidateQuietly _ e t).trans_calm (calm_emit ..)

-- While no call is running, a timeline can be filled again without a new generation.
theorem changes_startRefetch (arrives : TimelineId → Item → Prop) (t : TimelineId)
    (hs : e.stack = []) : Changes arrives e (e.startRefetch t) := by
  have hw := within_startRefetch e t
  have hT : ∀ t', (e.timeline t').Keeps (arrives t') ((e.startRefetch t).timeline t') := by
    intro t'
    by_cases h : t' = t
    · subst h
      by_cases ht : t' < e.timelines.length
      · rw [timeline_startRefetch ht]
        exact ⟨rfl, rfl, fun _ h => .inl h⟩
      · have hle := Nat.le_of_not_lt ht
        rw [timeline_of_le hle, timeline_of_le (hw.size ▸ hle)]
        exact .refl _ _
    · exact hw.others t' h ▸ .refl _ _
  refine ⟨?_, hw.size, ?_, fun q => (hw.query q).coherent, fun t' => .inl (hT t'),
    fun _ t' => .inl (hT t').compiled, ?_⟩
  · rw [activations, hw.stack]
    rfl
  · intro o t' ho
    rwa [owner_congr hw.operations]
  · intro a t' r hr
    rcases asks_append hw.operations (jobs_startRefetch e t) hr with hr | hr
    · exact .inl hr
    · split at hr
      · rename_i hruntime
        obtain ⟨rfl, rfl⟩ : t' = t ∧ r = refill (e.timeline t) := by simpa using hr
        refine .inr ⟨⟨?_, ?_⟩, hasRuntime_lt hruntime, .inl hs⟩
        · exact (hT t').generation.symm
        · rw [(hT t').compiled]
          rfl
      · cases hr

-- A timeline goes over to a later generation by itself.
theorem changes_modifyTimeline (e : Engine) {f : Timeline → Timeline}
    (h : (e.timeline t).Renews (arrives t) (f (e.timeline t)))
    (ho : (f (e.timeline t)).compiled = (e.timeline t).compiled ∨
      ∃ expr : Expr, (f (e.timeline t)).compiled = expr.compile) :
    Changes arrives e (e.modifyTimeline t f) where
  activations := rfl
  size := by simp [modifyTimeline]
  owner _ _ := id
  coherent _ := id
  timeline t' := by
    rcases timeline_modifyTimeline e t t' f with ht | ⟨rfl, ht⟩
    · exact .inl (ht ▸ .refl _ _)
    · exact .inr (ht ▸ h)
  origin _ t' := by
    rcases timeline_modifyTimeline e t t' f with ht | ⟨rfl, ht⟩
    · exact .inl (by rw [ht])
    · exact ht ▸ ho
  asks _ _ _ := .inl

theorem calm_endWork (arrives : TimelineId → Item → Prop) (e : Engine) (t : TimelineId) :
    Calm arrives e (e.endWork t) :=
  (background_abortWork e t).calm.trans (calm_dropSubscription ..)

theorem changes_teardown (arrives : TimelineId → Item → Prop) (e : Engine) (t : TimelineId) :
    Changes arrives e (e.teardown t).2 := by
  rw [teardown_eq]
  refine (calm_endWork arrives e t).trans_changes (changes_modifyTimeline _ ?_ (.inl rfl))
  exact ⟨Nat.lt_succ_self _, fun _ h => .inl ⟨.inl h, rfl⟩⟩

omit [Patterns] in
theorem filter_deactivations (query : Option QueryId) :
    (deactivations query).filter Frame.isActivation = [] := by
  cases query <;> rfl

theorem calm_dropHold (arrives : TimelineId → Item → Prop) (e : Engine) (t : TimelineId) :
    Calm arrives e (e.dropHold t) :=
  calm_modifyTimeline e ⟨rfl, rfl, fun _ h => .inl h⟩

theorem changes_release (arrives : TimelineId → Item → Prop) (e : Engine) (target : Target) :
    Changes arrives e (e.release target) := by
  cases target with
  | observer o =>
      refine Calm.changes ?_
      exact ⟨id, rfl, rfl, fun _ _ => id, fun _ => id, fun _ => .refl _ _, fun _ _ _ => id⟩
  | timeline t =>
      have h := calm_dropHold arrives e t
      rw [release_eq]
      split
      · exact (h.trans_changes (changes_teardown ..)).trans_calm
          (calm_push _ (filter_deactivations _))
      · exact h.changes

theorem changes_close (arrives : TimelineId → Item → Prop) (e : Engine) (o : OperationId)
    {status : Status} (h : ∀ request, status ≠ .waiting request) :
    Changes arrives e (e.close o status) := by
  unfold close
  split
  · exact (calm_setStatus e o h).trans_changes (changes_release ..)
  · exact (Calm.refl _ _).changes

theorem changes_onInvalidated (arrives : TimelineId → Item → Prop) (e : Engine)
    (t : TimelineId) (revision : Nat) : Changes arrives e (e.onInvalidated t revision) := by
  unfold onInvalidated
  dsimp only
  split
  · exact (Calm.refl _ _).changes
  · split
    · split
      · split
        · exact (calm_modifyTimeline e ⟨rfl, rfl, fun _ h => .inl h⟩).changes
        · exact (Calm.refl _ _).changes
      · exact changes_invalidateNow ..
    · exact changes_invalidateNow ..

theorem changes_refresh (arrives : TimelineId → Item → Prop) (e : Engine) (t : TimelineId) :
    Changes arrives e (e.refresh t) := by
  unfold refresh
  split
  · exact changes_invalidateNow ..
  · exact (Calm.refl _ _).changes

theorem changes_catchUp (arrives : TimelineId → Item → Prop) (e : Engine) (t : TimelineId) :
    Changes arrives e (e.catchUp t) := by
  unfold catchUp
  split
  · refine (changes_invalidateQuietly arrives e t).trans_calm (Calm.trans ?_ (calm_emit ..))
    exact calm_modifyTimeline _ ⟨rfl, rfl, fun _ h => .inl h⟩
  · exact (Calm.refl _ _).changes

theorem changes_offer (arrives : TimelineId → Item → Prop) (e : Engine) (t : TimelineId)
    (item : Item) : Changes arrives e (e.offer t item).2 := by
  rw [offer_eq]
  split
  · exact (Calm.refl _ _).changes
  · split
    · rename_i haccepts
      exact (changes_catchUp arrives e t).trans_calm
        (calm_modifyTimeline _ (keeps_receive _ _ haccepts))
    · exact changes_catchUp ..

theorem calm_enrol (arrives : TimelineId → Item → Prop) (e : Engine) (t : TimelineId)
    (q : QueryId) : Calm arrives e (e.enrol t q) := by
  unfold enrol
  refine Calm.trans ?_ (calm_modifyTimeline _ ⟨rfl, rfl, fun _ h => .inl h⟩)
  exact (calm_modifyQuery e q id).trans (calm_unsubscribe ..)

-- All that running calls do, but for the attachment of an activation.
theorem changes_perform (arrives : TimelineId → Item → Prop) (e : Engine) {frame : Frame}
    (h : frame.isActivation = false) : Changes arrives e (e.perform frame) := by
  cases frame with
  | activate q => exact (calm_addActivation e q).changes
  | deactivate q => exact (calm_removeActivation e q).changes
  | announce q revision => exact (calm_announce e q revision).changes
  | rounds q => exact (calm_continueRounds e q).changes
  | call target revision =>
      cases target with
      | timeline t => exact changes_onInvalidated ..
      | observer o => exact (calm_push e rfl).changes
  | observer o revision => exact (Calm.refl _ _).changes
  | release target => exact changes_release ..
  | attach t q epoch purpose =>
      cases purpose with
      | activation o generation => cases h
      | swap =>
          change Changes arrives e (e.attach t q epoch .swap)
          rw [attach_eq]
          split
          · exact (calm_push e rfl).changes
          · exact (calm_enrol arrives e t q).trans_changes (changes_refresh ..)
  | emit t delta => exact (calm_emit e t delta).changes
  | finish o result => exact changes_close _ _ _ fun _ => nofun

-- Calls.

theorem calm_addQuery (arrives : TimelineId → Item → Prop) (e : Engine) (expr : Expr)
    (source : Option String) : Calm arrives e (e.addQuery { expr, source }).2 where
  stack := id
  activations := rfl
  size := rfl
  owner _ _ := id
  coherent q hq := by
    simp only [addQuery, query, List.getElem?_append] at hq ⊢
    split
    · exact hq
    · cases hi : q - e.queries.length with
      | zero => simp [Query.Coherent]
      | succ i => simp [Query.Coherent, default]
  timeline _ := .refl _ _
  asks _ _ _ := id

theorem calm_setExpression (arrives : TimelineId → Item → Prop) (e : Engine) (q : QueryId)
    (expr : Expr) : Calm arrives e (e.setExpression q expr) := by
  refine (calm_modifyQuery e q ?_).trans (calm_push _ rfl)
  exact fun _ => nofun

theorem coherent_replaceSource (query : Query Target) (text : String) :
    (query.replaceSource text).2.Coherent := by
  unfold Query.replaceSource
  split <;> exact nofun

theorem calm_setSource (arrives : TimelineId → Item → Prop) (e : Engine) (q : QueryId)
    (text : String) : Calm arrives e (e.setSource q text).2 := by
  refine (calm_modifyQuery e q ?_).trans (calm_push _ rfl)
  exact fun _ => coherent_replaceSource _ text

theorem calm_listen (arrives : TimelineId → Item → Prop) (e : Engine) (q : QueryId) :
    Calm arrives e (e.listen q).2.2 := by
  have h : Calm arrives e { e with observers := e.observers ++ [1] } :=
    ⟨id, rfl, rfl, fun _ _ => id, fun _ => id, fun _ => .refl _ _, fun _ _ _ => id⟩
  exact h.trans (calm_modifyQuery _ q id)

theorem changes_deactivate (arrives : TimelineId → Item → Prop) (e : Engine)
    (t : TimelineId) : Changes arrives e (e.deactivate t) := by
  unfold deactivate
  split
  · exact (changes_teardown ..).trans_calm (calm_push _ (filter_deactivations _))
  · exact (Calm.refl _ _).changes

theorem changes_invalidate (arrives : TimelineId → Item → Prop) (e : Engine)
    (t : TimelineId) : Changes arrives e (e.invalidate t) := by
  unfold invalidate
  split
  · exact (Calm.refl _ _).changes
  · exact changes_invalidateNow ..

-- A timeline that was stopped for good.
def ended (timeline : Timeline) : Timeline :=
  { stopped timeline with
    phase := .disposed
    query := none
    hasRuntime := false
    compiled := .contradiction
    compiledRevision := none
    unread := 0
    buffer := timeline.buffer.clear.1 }

theorem dispose_eq (e : Engine) (t : TimelineId) :
    e.dispose t =
      if (e.timeline t).phase = .disposed then e
      else ((e.endWork t).modifyTimeline t ended).push
        (deactivations (e.timeline t).activated ++ [.emit t (e.timeline t).buffer.clear.2]) := by
  have hbuffer : (((e.endWork t).modifyTimeline t stopped).timeline t).buffer =
      (e.timeline t).buffer := by
    rw [← timeline_endWork e t t]
    rcases timeline_modifyTimeline (e.endWork t) t t stopped with h | ⟨-, h⟩
    · rw [h]
    · rw [h]
      rfl
  unfold dispose
  split
  · rfl
  · rw [teardown_eq]
    dsimp only
    rw [hbuffer, modifyTimeline_modifyTimeline]
    congr 1
    apply modifyTimeline_congr
    rw [timeline_endWork]
    rfl

theorem changes_dispose (arrives : TimelineId → Item → Prop) (e : Engine) (t : TimelineId) :
    Changes arrives e (e.dispose t) := by
  rw [dispose_eq]
  split
  · exact (Calm.refl _ _).changes
  · have hended : Changes arrives (e.endWork t) ((e.endWork t).modifyTimeline t ended) := by
      refine changes_modifyTimeline _ ⟨Nat.lt_succ_self _, ?_⟩ (.inr ⟨.contradiction, rfl⟩)
      intro item hitem
      simp [ended] at hitem
    refine ((calm_endWork arrives e t).trans_changes hended).trans_calm (calm_push _ ?_)
    rw [List.filter_append, filter_deactivations]
    rfl

-- A timeline has given up its query for another one, but still applies the filter it had.
def leaveQuery (e : Engine) (t : TimelineId) (query : Option QueryId) : Engine :=
  (e.unsubscribe t).modifyTimeline t fun timeline =>
    { timeline with activated := none, query, epoch := (e.timeline t).epoch + 1 }

-- How a timeline comes to its query after a change of it.
def attachment (timeline : Timeline) (t : TimelineId) : Option QueryId → List Frame
  | some q =>
      if timeline.phase.isActive then
        [.activate q, .attach t q (timeline.epoch + 1) .swap]
      else []
  | none => []

theorem setQuery_eq (e : Engine) (t : TimelineId) (query : Option QueryId) :
    (e.setQuery t query).2 =
      if (e.timeline t).phase = .disposed ∨ (e.timeline t).query = query then e
      else ((e.leaveQuery t query).invalidateNow t).push
        (deactivations (e.timeline t).activated ++ attachment (e.timeline t) t query) := by
  unfold setQuery
  by_cases hd : (e.timeline t).phase = .disposed
  · simp [hd]
  · by_cases hq : (e.timeline t).query = query
    · simp [hd, hq]
    · simp only [hd, hq, if_false, or_self]
      rfl

theorem calm_leaveQuery (arrives : TimelineId → Item → Prop) (e : Engine) (t : TimelineId)
    (query : Option QueryId) : Calm arrives e (e.leaveQuery t query) :=
  (calm_unsubscribe e t).trans (calm_modifyTimeline _ ⟨rfl, rfl, fun _ h => .inl h⟩)

theorem filter_attachment (timeline : Timeline) (t : TimelineId) (query : Option QueryId) :
    (attachment timeline t query).filter Frame.isActivation = [] := by
  cases query with
  | none => rfl
  | some q =>
      unfold attachment
      dsimp only
      split <;> rfl

theorem changes_setQuery (arrives : TimelineId → Item → Prop) (e : Engine) (t : TimelineId)
    (query : Option QueryId) : Changes arrives e (e.setQuery t query).2 := by
  rw [setQuery_eq]
  split
  · exact (Calm.refl _ _).changes
  · refine Changes.trans_calm ((calm_leaveQuery arrives e t query).trans_changes
      (changes_invalidateNow ..)) (calm_push _ ?_)
    rw [List.filter_append, filter_deactivations, filter_attachment]
    rfl

theorem calm_currentFilter (arrives : TimelineId → Item → Prop) (e : Engine) (t : TimelineId) :
    Calm arrives e (e.currentFilter t).2 := by
  unfold currentFilter
  split
  · split
    · exact calm_compile e _
    · exact .refl _ _
  · exact .refl _ _

-- Operations.

theorem owner_lt {o : OperationId} (h : e.owner o = some t) : o < e.operations.length := by
  apply Nat.lt_of_not_le
  intro hle
  simp [owner, List.getElem?_eq_none hle] at h

theorem calm_appendOperation (arrives : TimelineId → Item → Prop) (e : Engine)
    (t : TimelineId) (kind : OperationKind) :
    Calm arrives e { e with
      operations := e.operations ++ [{ timeline := t, kind, status := .running }] } where
  stack := id
  activations := rfl
  size := rfl
  owner o t' ho := by
    rw [← ho]
    simp only [Engine.owner, List.getElem?_append_left (owner_lt ho)]
  coherent _ := id
  timeline _ := .refl _ _
  asks a t' r ha := by
    cases a with
    | task k => exact ha
    | operation o =>
        simp only [asks, List.getElem?_append] at ha ⊢
        split at ha
        · rename_i heq
          split at heq
          · rw [heq]
            exact ha
          · cases hi : o - e.operations.length with
            | zero => simp [hi] at heq
            | succ i => simp [hi] at heq
        · cases ha

theorem calm_addOperation (arrives : TimelineId → Item → Prop) (e : Engine) (t : TimelineId)
    (kind : OperationKind) : Calm arrives e (e.addOperation t kind).2 := by
  unfold addOperation
  dsimp only
  exact (calm_appendOperation arrives e t kind).trans (calm_retain _ _)

theorem owner_addOperation (e : Engine) (t : TimelineId) (kind : OperationKind) :
    (e.addOperation t kind).2.owner (e.addOperation t kind).1 = some t := by
  simp [owner, addOperation, retain, modifyTimeline]

theorem calm_spawnPump (arrives : TimelineId → Item → Prop) (e : Engine) (t : TimelineId)
    (s : StreamId) : Calm arrives e (e.spawn (.pump t s)).2 where
  stack := id
  activations := rfl
  size := rfl
  owner _ _ := id
  coherent _ := id
  timeline _ := .refl _ _
  asks a t' r ha := by
    have ho : (e.spawn (.pump t s)).2.operations = e.operations := rfl
    rcases asks_append ho (jobs_spawn e (.pump t s)) ha with ha | ha
    · exact ha
    · simp at ha

theorem changes_complete (e : Engine) (o : OperationId)
    (result : Except StorageError (List Item))
    (h : ∀ t r items, e.asks (.operation o) = some (t, r) → result = .ok items →
      r.generation = (e.timeline t).generation → ∀ item ∈ items, arrives t item) :
    Changes arrives e (e.complete o result) := by
  cases completes e o result with
  | unasked hnone heq =>
      rw [heq]
      exact (Calm.refl _ _).changes
  | ended hop hwhy heq =>
      rw [heq]
      exact changes_close _ _ _ (done_ne_waiting _)
  | @merged t kind r items phase outcome hop hg hphase heq =>
      have hasks : e.asks (.operation o) = some (t, r) := by simp only [asks, hop]
      have hkeeps : Timeline.Keeps (arrives t) { e.timeline t with phase } _ :=
        keeps_absorb _ (h t r items hasks rfl hg)
      rw [heq]
      refine Calm.trans_changes (calm_modifyTimeline e ?_) (changes_close _ _ _ (done_ne_waiting _))
      exact ⟨hkeeps.generation, hkeeps.compiled, hkeeps.buffer⟩
  | rolledBack hop hg heq =>
      have hrunning : Calm arrives e (e.setStatus o .running) := calm_setStatus e o running_ne_waiting
      rw [heq]
      refine hrunning.trans_changes ((changes_teardown ..).trans_calm (calm_push _ ?_))
      rw [List.filter_append, filter_deactivations]
      rfl

theorem changes_cancel (arrives : TimelineId → Item → Prop) (e : Engine) (o : OperationId) :
    Changes arrives e (e.cancel o) := by
  unfold cancel
  split
  · exact changes_close _ _ _ fun _ => nofun
  · exact (Calm.refl _ _).changes

-- Tasks.

theorem calm_completeTask (e : Engine) (k : TaskId) (result : Except StorageError (List Item))
    (h : ∀ t r items, e.asks (.task k) = some (t, r) → result = .ok items →
      r.generation = (e.timeline t).generation → ∀ item ∈ items, arrives t item) :
    Calm arrives e (e.completeTask k result) := by
  cases replenishes e k result with
  | background hb => exact hb.calm
  | @filled t r items e₁ hasks halive hg hb heq =>
      rw [heq]
      have hreplenished : (e₁.timeline t).Keeps (arrives t) (replenished (e₁.timeline t)) :=
        ⟨rfl, rfl, fun _ h => .inl h⟩
      refine hb.calm.trans (calm_modifyTimeline e₁ (hreplenished.trans ?_))
      exact keeps_absorb _ (h t r items hasks rfl hg)
  | @failed t r cause e₁ hasks halive hg hb heq =>
      rw [heq]
      exact hb.calm.trans (calm_modifyTimeline e₁ ⟨rfl, rfl, fun _ h => .inl h⟩)

theorem changes_turn (arrives : TimelineId → Item → Prop) (k : TaskId) (hs : e.stack = []) :
    Changes arrives e (e.turn k) := by
  cases polls e k with
  | background hb => exact hb.calm.changes
  | offered htask halive hitem hb heq =>
      rw [heq]
      exact hb.calm.trans_changes (changes_offer ..)
  | lagged htask halive hactive hmissed hb heq =>
      rw [heq]
      exact hb.calm.trans_changes (changes_startRefetch arrives _ (hb.stack.trans hs))

end FilteredFeed.Engine
