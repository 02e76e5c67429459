import FilteredFeed.Proofs.Engine.Secluded

namespace FilteredFeed.Engine

open FilteredFeed.Feed FilteredFeed.Filter FilteredFeed.Listener FilteredFeed.Timeline
open FilteredFeed.Scenario (Asker)

variable [Patterns]
variable {e e' e'' : Engine} {t : TimelineId} {q : QueryId} {d : Option TimelineId} {m : Move}

-- The revisions of all queries.
def revisions (e : Engine) (q : QueryId) : Nat := (e.query q).revision

theorem current_snd (e : Engine) (t : TimelineId) :
    (e.current t).2 = (e.timeline t).query.map e.revisions := by
  unfold current
  cases (e.timeline t).query <;> rfl

theorem isStale_eq (e : Engine) (t : TimelineId) :
    e.isStale t = ((e.timeline t).query.map e.revisions != (e.timeline t).compiledRevision) := rfl

-- The notifications under way, and those that are put off.
def notices (e : Engine) (q : QueryId) : Option (Round Target) × Option Nat :=
  ((e.query q).registry.round, (e.query q).registry.pending)

-- What a call may leave to be done while the queries stay as they are. Only the end of a timeline
-- leaves something to be said of its buffer.
def Frame.IsModest (d : Option TimelineId) (revisions : QueryId → Nat) : Frame → Prop
  | .announce q revision => revision = revisions q
  | .call _ _ | .observer _ _ | .rounds _ => False
  | .emit t _ => d = some t
  | .activate _ | .deactivate _ | .release _ | .attach .. | .finish .. => True

-- Queries and notifications stay as they are, and what is left to be done is modest.
structure Modest (d : Option TimelineId) (e e' : Engine) : Prop where
  revisions : e'.revisions = e.revisions
  notices : e'.notices = e.notices
  stack : ∃ frames, e'.stack = frames ++ e.stack ∧ ∀ f ∈ frames, f.IsModest d e.revisions

theorem Modest.refl (d : Option TimelineId) (e : Engine) : Modest d e e :=
  ⟨rfl, rfl, [], rfl, nofun⟩

theorem Modest.trans (h : Modest d e e') (h' : Modest d e' e'') : Modest d e e'' := by
  obtain ⟨frames, hs, hf⟩ := h.stack
  obtain ⟨frames', hs', hf'⟩ := h'.stack
  rw [h.revisions] at hf'
  refine ⟨h'.revisions.trans h.revisions, h'.notices.trans h.notices, frames' ++ frames,
    by rw [hs', hs, List.append_assoc], fun f hmem => ?_⟩
  rcases List.mem_append.mp hmem with hmem | hmem
  · exact hf' f hmem
  · exact hf f hmem

theorem modest_of_queries (hq : e'.queries = e.queries) (hs : e'.stack = e.stack) :
    Modest d e e' := by
  have hquery : e'.query = e.query := by
    funext q
    unfold query
    rw [hq]
  refine ⟨?_, ?_, [], hs, nofun⟩
  · unfold revisions
    rw [hquery]
  · unfold notices
    rw [hquery]

theorem Background.modest (h : Background e e') : Modest d e e' :=
  modest_of_queries h.queries h.stack

theorem Within.modest (h : Within t e e') : Modest d e e' := by
  refine ⟨?_, ?_, [], h.stack, nofun⟩
  · funext q
    exact (h.query q).revision
  · funext q
    unfold notices
    rw [(h.query q).registry]

theorem modest_modifyQuery (e : Engine) (q : QueryId) {f : Query Target → Query Target}
    (hrevision : (f (e.query q)).revision = (e.query q).revision)
    (hround : (f (e.query q)).registry.round = (e.query q).registry.round)
    (hpending : (f (e.query q)).registry.pending = (e.query q).registry.pending) :
    Modest d e (e.modifyQuery q f) := by
  refine ⟨?_, ?_, [], rfl, nofun⟩
  · funext q'
    exact revision_modifyQuery e q q' hrevision
  · funext q'
    unfold notices
    rcases query_modifyQuery e q q' f with hQ | ⟨rfl, hQ⟩
    · rw [hQ]
    · rw [hQ, hround, hpending]

theorem modest_push (e : Engine) {frames : List Frame}
    (h : ∀ f ∈ frames, f.IsModest d e.revisions) : Modest d e (e.push frames) :=
  ⟨rfl, rfl, frames, rfl, h⟩

omit [Patterns] in
theorem isModest_deactivations (activated : Option QueryId) (revisions : QueryId → Nat) :
    ∀ f ∈ deactivations activated, f.IsModest d revisions := by
  intro f hmem
  cases activated with
  | none => cases hmem
  | some q =>
      rw [List.mem_singleton.mp hmem]
      exact trivial

theorem modest_deactivations (e : Engine) (activated : Option QueryId) {frames : List Frame}
    (h : ∀ f ∈ frames, f.IsModest d e.revisions) :
    Modest d e (e.push (deactivations activated ++ frames)) := by
  refine modest_push e fun f hmem => ?_
  rcases List.mem_append.mp hmem with hmem | hmem
  · exact isModest_deactivations activated _ f hmem
  · exact h f hmem

theorem modest_retain (e : Engine) (target : Target) : Modest d e (e.retain target) := by
  cases target <;> exact modest_of_queries rfl rfl

theorem modest_hold (e : Engine) (t : TimelineId) : Modest d e (e.hold t) :=
  (modest_retain e _).trans (modest_push _ (by simp [Frame.IsModest]))

theorem modest_toggled (e : Engine) (q : QueryId) : Modest d e (e.toggled q) := by
  unfold toggled
  split
  · exact .refl d e
  · exact modest_push e (by simp [Frame.IsModest, revisions])

theorem modest_addActivation (e : Engine) (q : QueryId) : Modest d e (e.addActivation q) :=
  (modest_modifyQuery e q rfl rfl rfl).trans (modest_toggled ..)

theorem modest_removeActivation (e : Engine) (q : QueryId) : Modest d e (e.removeActivation q) := by
  unfold removeActivation
  split
  · exact (modest_modifyQuery e q rfl rfl rfl).trans (modest_toggled ..)
  · exact .refl d e

-- Timelines and their subscriptions.

theorem modest_dropSubscription (e : Engine) (subscription : Option (QueryId × SubscriptionId)) :
    Modest d e (e.dropSubscription subscription) := by
  cases subscription with
  | none => exact .refl d e
  | some s => exact modest_modifyQuery e s.1 rfl rfl rfl

theorem modest_modifyTimeline (e : Engine) (t : TimelineId) (f : Timeline → Timeline) :
    Modest d e (e.modifyTimeline t f) :=
  modest_of_queries rfl rfl

theorem modest_endWork (e : Engine) (t : TimelineId) : Modest d e (e.endWork t) :=
  (background_abortWork e t).modest.trans (modest_dropSubscription ..)

theorem modest_teardown (e : Engine) (t : TimelineId) : Modest d e (e.teardown t).2 := by
  rw [teardown_eq]
  exact (modest_endWork e t).trans (modest_modifyTimeline ..)

theorem modest_torn (e : Engine) (t : TimelineId) (activated : Option QueryId)
    (frames : List Frame) (h : ∀ f ∈ frames, f.IsModest d e.revisions) :
    Modest d e ((e.teardown t).2.push (deactivations activated ++ frames)) := by
  have htorn : Modest d e (e.teardown t).2 := modest_teardown e t
  exact htorn.trans (modest_deactivations _ _ (htorn.revisions ▸ h))

theorem modest_stopped (e : Engine) (t : TimelineId) (activated : Option QueryId) :
    Modest d e ((e.teardown t).2.push (deactivations activated)) := by
  have htorn : Modest d e ((e.teardown t).2.push (deactivations activated ++ [])) :=
    modest_torn e t activated [] nofun
  rwa [List.append_nil] at htorn

theorem modest_release (e : Engine) (target : Target) : Modest d e (e.release target) := by
  cases target with
  | observer o => exact modest_of_queries rfl rfl
  | timeline t =>
      have hdrop : Modest d e (e.dropHold t) := modest_modifyTimeline ..
      rw [release_eq]
      split
      · exact hdrop.trans (modest_stopped ..)
      · exact hdrop

theorem modest_setStatus (e : Engine) (o : OperationId) (status : Status) :
    Modest d e (e.setStatus o status) :=
  modest_of_queries rfl rfl

theorem modest_close (e : Engine) (o : OperationId) (status : Status) :
    Modest d e (e.close o status) := by
  unfold close
  split
  · exact (modest_setStatus ..).trans (modest_release ..)
  · exact .refl d e

theorem modest_enrol (e : Engine) (t : TimelineId) (q : QueryId) : Modest d e (e.enrol t q) := by
  have hsubscribed : Modest d e (e.modifyQuery q fun query =>
      { query with registry := ((e.query q).registry.subscribe (.timeline t)).2 }) :=
    modest_modifyQuery e q rfl rfl rfl
  unfold enrol unsubscribe
  exact ((hsubscribed.trans (modest_dropSubscription ..)).trans (modest_modifyTimeline ..)).trans
    (modest_modifyTimeline ..)

theorem modest_prepare (e : Engine) (t : TimelineId) (o : OperationId) (generation : Nat) :
    Modest d e (e.prepare t o generation) := by
  rw [prepare_eq]
  split
  · exact modest_push e (by simp [Frame.IsModest])
  · exact (within_prepared e t).modest.trans (modest_setStatus ..)

theorem modest_attach (e : Engine) (t : TimelineId) (q : QueryId) (epoch : Nat)
    (purpose : Purpose) : Modest d e (e.attach t q epoch purpose) := by
  rw [attach_eq]
  split
  · cases purpose with
    | swap => exact modest_push e (by simp [Frame.IsModest])
    | activation o generation => exact modest_push e (by simp [Frame.IsModest])
  · cases purpose with
    | swap => exact (modest_enrol e t q).trans (within_refresh _ t).modest
    | activation o generation => exact (modest_enrol e t q).trans (modest_prepare ..)

theorem modest_deactivate (e : Engine) (t : TimelineId) : Modest d e (e.deactivate t) := by
  unfold deactivate
  split
  · exact modest_stopped ..
  · exact .refl d e

theorem modest_invalidate (e : Engine) (t : TimelineId) : Modest d e (e.invalidate t) := by
  unfold invalidate
  split
  · exact .refl d e
  · exact (within_invalidateNow e t).modest

theorem modest_dispose (e : Engine) (t : TimelineId) : Modest (some t) e (e.dispose t) := by
  rw [dispose_eq]
  split
  · exact .refl _ e
  · have hended : Modest (some t) e ((e.endWork t).modifyTimeline t ended) :=
      (modest_endWork e t).trans (modest_modifyTimeline ..)
    exact hended.trans (modest_deactivations _ _ (by simp [Frame.IsModest]))

theorem isModest_attachment (T : Timeline) (t : TimelineId) (query : Option QueryId)
    (revisions : QueryId → Nat) : ∀ f ∈ attachment T t query, f.IsModest d revisions := by
  intro f hmem
  cases query with
  | none => cases hmem
  | some q =>
      unfold attachment at hmem
      dsimp only at hmem
      split at hmem
      · simp only [List.mem_cons, List.not_mem_nil, or_false] at hmem
        rcases hmem with rfl | rfl <;> exact trivial
      · cases hmem

theorem modest_setQuery (e : Engine) (t : TimelineId) (query : Option QueryId) :
    Modest d e (e.setQuery t query).2 := by
  rw [setQuery_eq]
  split
  · exact .refl d e
  · have hleave : Modest d e (e.leaveQuery t query) :=
      ((modest_dropSubscription ..).trans (modest_modifyTimeline ..)).trans
        (modest_modifyTimeline ..)
    exact (hleave.trans (within_invalidateNow ..).modest).trans
      (modest_deactivations _ _ (isModest_attachment _ t query _))

theorem modest_currentFilter (e : Engine) (t : TimelineId) :
    Modest d e (e.currentFilter t).2 := by
  unfold currentFilter
  split
  · split
    · exact (within_compile e t _).modest
    · exact .refl d e
  · exact .refl d e

-- Operations and tasks.

theorem modest_addOperation (e : Engine) (t : TimelineId) (kind : OperationKind) :
    Modest d e (e.addOperation t kind).2 := by
  have hadded : Modest d e
      { e with operations := e.operations ++ [{ timeline := t, kind, status := .running }] } :=
    modest_of_queries rfl rfl
  exact hadded.trans (modest_retain _ (.timeline t))

theorem modest_startActivation (e : Engine) (t : TimelineId) (hasRuntime : Bool) :
    Modest d e (e.startActivation t hasRuntime).2 := by
  have hadded : Modest d e (e.addOperation t .activation).2 := modest_addOperation e t _
  rcases startActivation_cases e t hasRuntime with ⟨-, -, heq⟩ | ⟨-, result, heq⟩
  · rw [heq]
    refine hadded.trans ?_
    have hlaunch (e : Engine) : Modest d e (e.launch t) := modest_of_queries rfl rfl
    unfold launched
    split
    · exact (hlaunch _).trans (modest_push _ (by simp [Frame.IsModest]))
    · exact (hlaunch _).trans (modest_prepare ..)
  · rw [heq]
    exact hadded.trans (modest_close ..)

theorem modest_startPage (e : Engine) (t : TimelineId) (before : Option ItemId) (limit : Nat) :
    Modest d e (e.startPage t before limit).2 := by
  unfold startPage
  dsimp only
  split
  · exact (modest_addOperation ..).trans (modest_close ..)
  · exact (modest_addOperation ..).trans (modest_setStatus ..)

theorem modest_complete (e : Engine) (o : OperationId) (result : Except StorageError (List Item)) :
    Modest d e (e.complete o result) := by
  cases completes e o result with
  | unasked hnone heq =>
      rw [heq]
      exact .refl d e
  | ended hop hwhy heq =>
      rw [heq]
      exact modest_close ..
  | merged hop hg hphase heq =>
      rw [heq]
      exact (modest_modifyTimeline ..).trans (modest_close ..)
  | rolledBack hop hg heq =>
      rw [heq]
      exact (modest_setStatus ..).trans (modest_torn _ _ _ _ (by simp [Frame.IsModest]))

theorem modest_cancel (e : Engine) (o : OperationId) : Modest d e (e.cancel o) := by
  unfold cancel
  split
  · exact modest_close ..
  · exact .refl d e

theorem modest_completeTask (e : Engine) (k : TaskId) (result : Except StorageError (List Item)) :
    Modest d e (e.completeTask k result) := by
  cases replenishes e k result with
  | background hb => exact hb.modest
  | filled hasks halive hg hb heq | failed hasks halive hg hb heq =>
      rw [heq]
      exact hb.modest.trans (modest_modifyTimeline ..)

theorem modest_turn (e : Engine) (k : TaskId) : Modest d e (e.turn k) := by
  cases polls e k with
  | background hb => exact hb.modest
  | offered htask halive hitem hb heq =>
      rw [heq]
      exact hb.modest.trans (within_offer ..).modest
  | lagged htask halive hactive hmissed hb heq =>
      rw [heq]
      exact hb.modest.trans (within_startRefetch ..).modest

-- Who is told what.

-- Whether a move gives a query another expression, or lets the calls that are running go on.
def Move.isModest : Move → Bool
  | .step | .leaveObserver | .setExpression .. | .setSource .. => false
  | _ => true

-- The timeline that a move ends.
def Move.ends : Move → Option TimelineId
  | .dispose t => some t
  | _ => none

-- A query that is made has the revision and the registry of one that does not exist.
theorem modest_addQuery (e : Engine) (expr : Expr) (source : Option String) :
    Modest d e (e.addQuery { expr, source }).2 := by
  have hquery (q : QueryId) : ((e.addQuery { expr, source }).2.query q).revision =
      (e.query q).revision ∧
        ((e.addQuery { expr, source }).2.query q).registry = (e.query q).registry := by
    by_cases hq : q < e.queries.length
    · rw [query_append hq]
      exact ⟨rfl, rfl⟩
    · have hle := Nat.le_of_not_lt hq
      simp only [addQuery, query, List.getElem?_append_right hle, List.getElem?_eq_none hle]
      cases q - e.queries.length with
      | zero => exact ⟨rfl, rfl⟩
      | succ i => exact ⟨rfl, rfl⟩
  refine ⟨?_, ?_, [], rfl, by simp⟩
  · funext q
    exact (hquery q).1
  · funext q
    unfold notices
    rw [(hquery q).2]

theorem modest_listen (e : Engine) (q : QueryId) : Modest d e (e.listen q).2.2 := by
  have hsubscribed (e : Engine) (target : Target) : Modest d e (e.modifyQuery q fun query =>
      { query with registry := ((e.query q).registry.subscribe target).2 }) :=
    modest_modifyQuery e q rfl rfl rfl
  have hadded : Modest d e { e with observers := e.observers ++ [1] } := modest_of_queries rfl rfl
  exact hadded.trans (hsubscribed _ _)

theorem modest_after (hmodest : m.isModest = true) : Modest m.ends e (e.after m) := by
  cases m with
  | step | leaveObserver | setExpression | setSource => cases hmodest
  | addQuery expr source => exact modest_addQuery e expr source
  | addChannel capacity => exact modest_of_queries rfl rfl
  | addTimeline config storage stream query hasSink =>
      have hadded (new : Timeline) : Modest none e { e with timelines := e.timelines ++ [new] } :=
        modest_of_queries rfl rfl
      exact (hadded _).trans (within_recompile _ _).modest
  | activateQuery q => exact modest_push e (by simp [Frame.IsModest])
  | deactivateQuery q => exact modest_push e (by simp [Frame.IsModest])
  | compile q => exact (within_compile e 0 q).modest
  | listen q => exact modest_listen e q
  | unsubscribe q id => exact modest_dropSubscription e (some (q, id))
  | releaseObserver o => exact modest_release e (.observer o)
  | retain t => exact modest_retain e (.timeline t)
  | drop t => exact modest_release e (.timeline t)
  | deactivate t => exact (modest_hold e t).trans (modest_deactivate _ t)
  | invalidate t => exact (modest_hold e t).trans (modest_invalidate _ t)
  | dispose t => exact (modest_hold e t).trans (modest_dispose _ t)
  | setQuery t query => exact (modest_hold e t).trans (modest_setQuery _ t query)
  | accepts t item => exact modest_currentFilter e t
  | takeUnread t => exact modest_modifyTimeline ..
  | offer t item => exact (within_offer e t item).modest
  | publish s item => exact (background_publish e s item).modest
  | closeStream s => exact (background_closeStream e s).modest
  | startActivation t hasRuntime => exact modest_startActivation e t hasRuntime
  | startPage t before limit => exact modest_startPage e t before limit
  | answer asker result =>
      cases asker with
      | operation o => exact modest_complete e o result
      | task k => exact modest_completeTask e k result
  | cancel o => exact modest_cancel e o
  | wake k => exact (background_wake e k).modest
  | nextTask => exact (background_nextTask e).modest
  | turn k => exact modest_turn e k

-- Whether a call runs a notification, or hands control to somebody outside.
def Frame.isModest : Frame → Bool
  | .announce _ _ | .rounds _ | .call (.observer _) _ | .observer _ _ => false
  | _ => true

theorem modest_perform {f : Frame} (hmodest : f.isModest = true) : Modest none e (e.perform f) := by
  cases f with
  | announce | rounds | observer => cases hmodest
  | activate q => exact modest_addActivation e q
  | deactivate q => exact modest_removeActivation e q
  | call target revision =>
      cases target with
      | timeline t => exact (within_onInvalidated e t revision).modest
      | observer o => cases hmodest
  | release target => exact modest_release e target
  | attach t q epoch purpose => exact modest_attach e t q epoch purpose
  | emit t delta => exact (within_emit e t delta).modest
  | finish o result => exact modest_close e o _

end FilteredFeed.Engine
