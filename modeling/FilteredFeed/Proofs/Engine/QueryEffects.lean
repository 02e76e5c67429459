import FilteredFeed.Pattern.Builtin
import FilteredFeed.Proofs.Engine.Answers
import FilteredFeed.Proofs.Engine.Effects

namespace FilteredFeed.Engine

open FilteredFeed.Feed FilteredFeed.Filter FilteredFeed.Grammar FilteredFeed.Listener
open FilteredFeed.Timeline

section

variable [Patterns]
variable {e e' e₁ e₂ : Engine} {t : TimelineId} {q q' : QueryId} {m : Move}
variable {queries : List QueryId} {actor : Option TimelineId} {p : TimelineId → Prop}

-- A move can happen, and leads to an engine in which no call is running.
def Ends (e : Engine) (m : Move) (e' : Engine) : Prop :=
  e.allows m = true ∧ Reaches (e.after m) e' ∧ e'.stack = []

theorem Ends.unique (h : e.Ends m e₁) (h' : e.Ends m e₂) : e₁ = e₂ :=
  h.2.1.unique h.2.2 h'.2.1 h'.2.2

theorem Ends.secluded (hends : e.Ends m e') (h : Secluded e) (hsecluded : m.isForeign = false) :
    Secluded e' :=
  hends.2.1.secluded (h.after hends.1 hsecluded)

-- An active timeline was invalidated, once. It applies the filter of its query, and its buffer is
-- being filled with what this filter accepts.
structure Invalidated (e e' : Engine) (t : TimelineId) (q : QueryId) : Prop
    extends Renewed e e' t where
  query : (e'.timeline t).query = some q
  compiled : (e'.timeline t).compiled = (e'.query q).expr.compile
  work : ∃ k, ∀ k' r, e'.work k' = some (.refetch t r) ↔ k' = k ∧ r = refill (e'.timeline t)

-- All active timelines of some queries but one at most are invalidated, and nothing happens to the
-- others.
structure Spreads (e e' : Engine) (queries : List QueryId) (actor : Option TimelineId) : Prop where
  told : ∀ t q, actor ≠ some t → q ∈ queries → (e.timeline t).uses q = true → Invalidated e e' t q
  others : ∀ t, actor ≠ some t → (∀ q ∈ queries, (e.timeline t).uses q = false) → Untouched e e' t

theorem Renewed.invalidated (hr : Renewed e e' t) (h : Unwatched e) (h' : Unwatched e')
    (hrest : e'.stack = []) (hquery : (e'.timeline t).query = some q) : Invalidated e e' t q := by
  have hactive : (e'.timeline t).phase.isActive = true := by
    rw [hr.phase]
    rfl
  have hcurrent := h'.current hrest hactive
  -- the request of an earlier generation was given up
  have hrequest (k : TaskId) (r : FetchRequest) (hwork : e'.work k = some (.refetch t r)) :
      r = refill (e'.timeline t) := by
    have hmem : .refetch t r ∈ e'.jobsOf t :=
      List.mem_filter.mpr ⟨List.mem_of_getElem? (job_of_work hwork), by simp [Job.timeline]⟩
    rw [hr.jobs] at hmem
    rcases List.mem_append.mp hmem with hold | hnew
    · obtain ⟨k', hk'⟩ := List.mem_iff_getElem?.mp (List.mem_filter.mp hold).1
      have hle := h.sound.earlier (.task k') t r (asks_of_job hk')
      have hg := (h'.staffed t).current k r hwork
      rw [hr.generation] at hg
      omega
    · exact (Job.refetch.inj (List.mem_singleton.mp hnew)).2
  obtain ⟨k, r, hwork⟩ := (h'.staffed t).refilled hr.phase
  refine ⟨hr, hquery, (applies_current h'.sound h'.wired hquery hcurrent).2.1, k, fun k' r' => ?_⟩
  constructor
  · intro hwork'
    exact ⟨(h'.staffed t).refetch_unique hwork' hwork, hrequest k' r' hwork'⟩
  · rintro ⟨rfl, rfl⟩
    rw [hwork, hrequest k' r hwork]

theorem Unwatched.uses_iff (h : Unwatched e) (hrest : e.stack = []) (t : TimelineId) (q : QueryId) :
    (e.timeline t).uses q = true ↔ (e.timeline t).activated = some q :=
  uses_iff_activated h.wired h.accounted hrest

-- What is done besides telling the users of some queries concerns one timeline at most.
theorem Told.spreads (htold : Told p e₁ e₂) (h : Unwatched e) (hrest : e.stack = [])
    (h' : Unwatched e') (hrest' : e'.stack = [])
    (hbefore : ∀ t, actor ≠ some t → Untouched e e₁ t)
    (hlater : ∀ t, actor ≠ some t → Untouched e₂ e' t)
    (hp : ∀ t, p t ↔ ∃ q ∈ queries, (e₁.timeline t).activated = some q) :
    Spreads e e' queries actor where
  told t q hactor hq huses := by
    have hactivated := (h.uses_iff hrest t q).mp huses
    have hconcerned : p t := by
      refine (hp t).mpr ⟨q, hq, ?_⟩
      rw [(hbefore t hactor).timeline, hactivated]
    refine Renewed.invalidated ?_ h h' hrest' ?_
    · exact ((hbefore t hactor).trans_renewed (htold.told t hconcerned)).trans_untouched
        (hlater t hactor)
    · unfold Timeline.uses at huses
      rw [(hlater t hactor).timeline, htold.query, (hbefore t hactor).timeline]
      exact eq_of_beq (Bool.and_eq_true_iff.mp huses).2
  others t hactor hunused := by
    refine ((hbefore t hactor).trans (htold.others t fun hconcerned => ?_)).trans (hlater t hactor)
    obtain ⟨q, hq, hactivated⟩ := (hp t).mp hconcerned
    rw [(hbefore t hactor).timeline] at hactivated
    have huses := (h.uses_iff hrest t q).mpr hactivated
    rw [hunused q hq] at huses
    cases huses

-- Nothing is done to the queries, nor to any timeline but one.
structure Alone (t : TimelineId) (e e' : Engine) : Prop where
  unchanged : Unchanged e e'
  others : ∀ t', t' ≠ t → Untouched e e' t'

theorem Alone.trans (h : Alone t e e₁) (h' : Alone t e₁ e') : Alone t e e' :=
  ⟨h.unchanged.trans h'.unchanged, fun t' hne => (h.others t' hne).trans (h'.others t' hne)⟩

theorem Still.alone (h : Still e e') (t : TimelineId) : Alone t e e' :=
  ⟨h.unchanged, fun t' _ => h.told.others t' id⟩

theorem alone_of_tasks (hunchanged : Unchanged e e')
    (hothers : ∀ t', t' ≠ t → e'.timeline t' = e.timeline t') (htasks : e'.tasks = e.tasks) :
    Alone t e e' :=
  ⟨hunchanged, fun t' hne => untouched_of_tasks (hothers t' hne) htasks⟩

theorem alone_modifyTimeline (e : Engine) (t : TimelineId) (f : Timeline → Timeline) :
    Alone t e (e.modifyTimeline t f) :=
  alone_of_tasks (.refl e) (fun _ hne => timeline_modifyTimeline_ne hne f) rfl

theorem alone_setStatus (e : Engine) (t : TimelineId) (o : OperationId) (status : Status) :
    Alone t e (e.setStatus o status) :=
  alone_of_tasks (.refl e) (fun _ _ => rfl) rfl

-- A timeline does something alone, the users of some queries are told, and the timeline goes on
-- alone.
theorem Told.spreads_alone (htold : Told p e₁ e₂) (h : Unwatched e) (hrest : e.stack = [])
    (h' : Unwatched e') (hrest' : e'.stack = []) (hbefore : Alone t e e₁) (hlater : Alone t e₂ e')
    (hp : ∀ t', p t' ↔ ∃ q ∈ queries, (e₁.timeline t').activated = some q) :
    Unchanged e e' ∧ Spreads e e' queries (some t) := by
  refine ⟨(hbefore.unchanged.trans htold.unchanged).trans hlater.unchanged,
    htold.spreads h hrest h' hrest' (fun t' hne => hbefore.others t' ?_)
      (fun t' hne => hlater.others t' ?_) hp⟩
  · exact Ne.symm (ne_of_apply_ne some hne)
  · exact Ne.symm (ne_of_apply_ne some hne)

-- A query is changed.

-- One query has another expression, and all others have the one they had.
def Replaced (e e' : Engine) (q : QueryId) (expr : Expr) : Prop :=
  ∀ q', (e'.query q').expr = if q' = q then expr else (e.query q').expr

theorem amend_ends (h : Secluded e) (hrest : e.stack = []) (hq : q < e.queries.length)
    {f : Query Target → Query Target} {announced : Nat} (hallows : e.allows m = true)
    (hsecluded : m.isForeign = false) (hafter : e.after m = e.amend q f announced) :
    ∃ e', e.Ends m e' ∧ Replaced e e' q (f (e.query q)).expr ∧ Spreads e e' [q] none := by
  have h₁ := h.after hallows hsecluded
  rw [hafter] at h₁
  have hstack : (e.amend q f announced).stack = [.announce q announced] := by
    change [.announce q announced] ++ e.stack = _
    rw [hrest]
    rfl
  obtain ⟨e', hreaches, hs', htold, -⟩ :=
    announce_ends h₁.toUnwatched hstack (by simpa [amend, modifyQuery, push] using hq) List.not_mem_nil
  refine ⟨e', ⟨hallows, hafter ▸ hreaches, hs'⟩, fun q' => ?_, ?_⟩
  · rw [(htold.unchanged q').1]
    by_cases hne : q' = q
    · subst hne
      rw [if_pos rfl]
      exact congrArg Query.expr (query_modifyQuery_self hq f)
    · rw [if_neg hne]
      exact congrArg Query.expr (query_modifyQuery_ne hne f)
  · refine htold.spreads h.toUnwatched hrest (hreaches.unwatched h₁.toUnwatched) hs' (fun t _ => untouched_of_tasks rfl rfl)
      (fun t _ => .refl e' t) fun t => ?_
    simp

theorem allows_amend (hrest : e.stack = []) (hq : q < e.queries.length) :
    (e.isOpen && decide (q < e.queries.length)) = true :=
  Bool.and_eq_true_iff.mpr ⟨isOpen_of_stack hrest, decide_eq_true hq⟩

theorem setExpression_ends (h : Secluded e) (hrest : e.stack = []) (hq : q < e.queries.length)
    (expr : Expr) :
    ∃ e', e.Ends (.setExpression q expr) e' ∧ Replaced e e' q expr ∧ Spreads e e' [q] none :=
  amend_ends h hrest hq (f := (·.replace expr none)) (allows_amend hrest hq) rfl rfl

-- Text that cannot be read changes a query like any other.
theorem setSource_ends (h : Secluded e) (hrest : e.stack = []) (hq : q < e.queries.length)
    (text : String) :
    ∃ e', e.Ends (.setSource q text) e' ∧
      Replaced e e' q ((Expr.parse text).toOption.getD .contradiction) ∧
      Spreads e e' [q] none := by
  have hexpr : ((e.query q).replaceSource text).2.expr =
      (Expr.parse text).toOption.getD .contradiction := by
    unfold Query.replaceSource
    cases Expr.parse text <;> rfl
  rw [← hexpr]
  exact amend_ends h hrest hq (m := .setSource q text)
    (f := fun _ => ((e.query q).replaceSource text).2) (allows_amend hrest hq) rfl rfl

-- A call lets its timeline go.

theorem release_ends {rest : List Frame} (hs : e.stack = .release (.timeline t) :: rest)
    (hheld : 2 ≤ (e.timeline t).holders) :
    ∃ e', Reaches e e' ∧ e'.stack = rest ∧ e'.tasks = e.tasks ∧
      (∃ holders, e'.timeline t = { e.timeline t with holders }) ∧ Alone t e e' := by
  have hstep := reaches_perform hs rfl
  rw [show ({ e with stack := rest } : Engine).perform (.release (.timeline t)) = _ from
    release_eq_dropHold (e := { e with stack := rest }) hheld] at hstep
  exact ⟨_, hstep, rfl, rfl, ⟨_, timeline_dropHold { e with stack := rest } t t⟩,
    ((still_pop e rest).alone t).trans (alone_modifyTimeline _ t _)⟩

theorem timeline_hold_self (ht : t < e.timelines.length) :
    (e.hold t).timeline t = { e.timeline t with holders := (e.timeline t).holders + 1 } :=
  timeline_modifyTimeline_self ht _

-- A timeline was stopped, and keeps its items.
structure Deactivated (e e' : Engine) (t : TimelineId) : Prop where
  query : (e'.timeline t).query = (e.timeline t).query
  generation : (e'.timeline t).generation = (e.timeline t).generation + 1
  phase : (e'.timeline t).phase = .inactive
  buffer : (e'.timeline t).buffer = (e.timeline t).buffer
  unread : (e'.timeline t).unread = (e.timeline t).unread
  jobs : e'.jobsOf t = e.jobsOf t
  work : ∀ k job, e'.work k = some job → job.timeline ≠ t

theorem jobs_teardown (e : Engine) (t : TimelineId) : (e.teardown t).2.jobs = e.jobs := by
  have hdrop : (e.endWork t).jobs = (e.abortWork t).jobs := by
    unfold endWork
    cases (e.timeline t).subscription <;> rfl
  rw [teardown_eq]
  exact hdrop.trans (background_abortWork e t).jobs

theorem unchanged_dropSubscription (e : Engine)
    (subscription : Option (QueryId × SubscriptionId)) :
    Unchanged e (e.dropSubscription subscription) := by
  cases subscription with
  | none => exact .refl e
  | some subscription => exact unchanged_modifyQuery e subscription.1 rfl rfl

theorem alone_teardown (hm : Manned e t) : Alone t e (e.teardown t).2 := by
  have hunchanged : Unchanged e (e.endWork t) :=
    (unchanged_of_queries (background_abortWork e t).queries).trans (unchanged_dropSubscription _ _)
  have hidle : Idle (some t) e (e.teardown t).2 := by
    rw [teardown_eq]
    exact hm.idle_endWork.trans (idle_change ..)
  refine ⟨?_, fun t' hne => ?_⟩
  · rw [teardown_eq]
    exact hunchanged
  · refine hidle.untouched (fun heq => hne (Option.some.inj heq).symm)
      ((apart_teardown e t).others t' hne) ?_
    unfold jobsOf
    rw [jobs_teardown]

theorem alone_hold (e : Engine) (t : TimelineId) : Alone t e (e.hold t) :=
  (alone_modifyTimeline e t _).trans ((still_push _ _).alone t)

-- A timeline was stopped, and its query has not been told of it yet.
structure Stopping (e e' : Engine) (t : TimelineId) : Prop where
  timeline : e'.timeline t = stopped { e.timeline t with holders := (e.timeline t).holders + 1 }
  jobs : e'.jobsOf t = e.jobsOf t
  alone : Alone t e e'

theorem stopping_teardown (hm : Manned e t) (ht : t < e.timelines.length) (frames : List Frame) :
    Stopping e (((e.hold t).teardown t).2.push frames) t := by
  have hmanned : Manned (e.hold t) t := hm.idle (idle_hold e t) nofun
  refine ⟨?_, ?_, ?_⟩
  · rw [← timeline_hold_self ht]
    exact timeline_teardown (size_hold e t ▸ ht)
  · exact congrArg (List.filter _) (jobs_teardown (e.hold t) t)
  · exact ((alone_hold e t).trans (alone_teardown hmanned)).trans ((still_push _ _).alone t)

theorem after_deactivate (h : Secluded e) (hrest : e.stack = [])
    (hactivated : (e.timeline t).activated = some q) :
    e.allows (.deactivate t) = true ∧ Stopping e (e.after (.deactivate t)) t ∧
      (e.after (.deactivate t)).stack = [.deactivate q, .release (.timeline t)] := by
  have hactive := (h.held hactivated).1
  have ht := lt_of_active hactive
  have hT := timeline_hold_self ht
  have hafter : e.after (.deactivate t) = ((e.hold t).teardown t).2.push [.deactivate q] := by
    have hactive' : ((e.hold t).timeline t).phase.isActive = true := by
      rw [hT]
      exact hactive
    have hactivated' : ((e.hold t).timeline t).activated = some q := by
      rw [hT]
      exact hactivated
    change (e.hold t).deactivate t = _
    rw [deactivate, if_pos hactive', teardown_eq, hactivated']
    rfl
  refine ⟨?_, ?_, ?_⟩
  · exact Bool.and_eq_true_iff.mpr ⟨isOpen_of_stack hrest, h.wired.alive_of_active hactive⟩
  · rw [hafter]
    exact stopping_teardown (h.staffed t).toManned ht _
  · rw [hafter]
    change .deactivate q :: ((e.hold t).teardown t).2.stack = _
    rw [(apart_teardown (e.hold t) t).stack]
    change .deactivate q :: .release (.timeline t) :: e.stack = _
    rw [hrest]

theorem deactivate_ends (h : Secluded e) (hrest : e.stack = [])
    (huses : (e.timeline t).uses q = true) :
    ∃ e', e.Ends (.deactivate t) e' ∧ Deactivated e e' t ∧ Unchanged e e' ∧
      Spreads e e' [q] (some t) := by
  have hactivated := (h.uses_iff hrest t q).mp huses
  obtain ⟨hallows, hstopping, hs₁⟩ := after_deactivate h hrest hactivated
  have h₁ := h.after hallows rfl
  generalize he₁ : e.after (.deactivate t) = e₁ at hstopping hs₁ h₁
  obtain ⟨e₂, hreaches₂, hs₂, htold, -⟩ :=
    toggle_ends h₁.toUnwatched hs₁ (.inr ⟨rfl, h₁.deactivates hs₁⟩) (by simp)
  -- the timeline itself does not listen any more
  have hself := htold.others t <| by
    rw [hstopping.timeline]
    exact nofun
  have hT₂ := hself.timeline.trans hstopping.timeline
  have hheld₂ : 2 ≤ (e₂.timeline t).holders := by
    rw [hT₂]
    exact Nat.succ_le_succ (h.held hactivated).2
  obtain ⟨e', hreaches', hs', htasks, ⟨holders, hT'⟩, halone'⟩ := release_ends hs₂ hheld₂
  have hreaches := hreaches₂.trans hreaches'
  have h' := hreaches.secluded h₁
  have hT : e'.timeline t = stopped { e.timeline t with holders } := by
    rw [hT', hT₂]
    rfl
  have hjobs : e'.jobsOf t = e₂.jobsOf t := jobsOf_congr htasks t
  refine ⟨e', ⟨hallows, he₁ ▸ hreaches, hs'⟩, ⟨?_, ?_, ?_, ?_, ?_, ?_, ?_⟩, ?_⟩
  · rw [hT]
    rfl
  · rw [hT]
    rfl
  · rw [hT]
    rfl
  · rw [hT]
    rfl
  · rw [hT]
    rfl
  · rw [hjobs, hself.jobs, hstopping.jobs]
  · exact (h'.staffed t).work_of_inactive (by rw [hT]; rfl)
  · exact htold.spreads_alone h.toUnwatched hrest h'.toUnwatched hs' hstopping.alone halone' (by simp)

-- A timeline goes over to another query.

theorem isStale_invalidateNow (ht : t < e.timelines.length) :
    (e.invalidateNow t).isStale t = false := by
  obtain ⟨events, refetch, hT⟩ := timeline_invalidateNow ht
  have hrevision (q : QueryId) := ((within_invalidateNow e t).query q).revision
  unfold isStale
  rw [hT]
  cases hquery : (e.timeline t).query with
  | none => simp [renewed, emptied, current, hquery]
  | some q => simp [renewed, emptied, current, hquery, hrevision]

theorem alone_unsubscribe (e : Engine) (t : TimelineId) : Alone t e (e.unsubscribe t) := by
  refine Alone.trans ?_ (alone_modifyTimeline _ t _)
  refine alone_of_tasks (unchanged_dropSubscription _ _) (apart_dropSubscription e t _).others ?_
  cases (e.timeline t).subscription <;> rfl

theorem tasks_leaveQuery (e : Engine) (t : TimelineId) (query : Option QueryId) :
    (e.leaveQuery t query).tasks = e.tasks := by
  unfold leaveQuery unsubscribe
  cases (e.timeline t).subscription <;> rfl

theorem tasks_enrol (e : Engine) (t : TimelineId) (q : QueryId) :
    (e.enrol t q).tasks = e.tasks := by
  unfold enrol unsubscribe
  cases ((e.modifyQuery q _).timeline t).subscription <;> rfl

theorem attach_swap (hcurrent : e.isStale t = false) (q : QueryId) :
    e.attach t q (e.timeline t).epoch .swap = e.enrol t q := by
  rw [attach_eq, if_neg (not_not_intro rfl)]
  dsimp only
  rw [refresh, isStale_enrol, hcurrent]
  rfl

theorem unchanged_enrol (e : Engine) (t : TimelineId) (q : QueryId) :
    Unchanged e (e.enrol t q) :=
  (unchanged_modifyQuery e q (g := fun query =>
    { query with registry := ((e.query q).registry.subscribe (.timeline t)).2 }) rfl rfl).trans
      (unchanged_dropSubscription _ _)

theorem alone_enrol (e : Engine) (t : TimelineId) (q : QueryId) : Alone t e (e.enrol t q) :=
  alone_of_tasks (unchanged_enrol e t q) (apart_enrol e t q).others (tasks_enrol e t q)

theorem swap_ends {rest : List Frame} (ht : t < e.timelines.length)
    (hs : e.stack = .attach t q (e.timeline t).epoch .swap :: rest)
    (hcurrent : e.isStale t = false) :
    ∃ e', Reaches e e' ∧ e'.stack = rest ∧ e'.tasks = e.tasks ∧
      (∃ subscription activated, e'.timeline t = { e.timeline t with subscription, activated }) ∧
      Alone t e e' := by
  have hstep := reaches_perform hs rfl
  rw [show ({ e with stack := rest } : Engine).perform (.attach t q (e.timeline t).epoch .swap) = _
    from attach_swap (e := { e with stack := rest }) hcurrent q] at hstep
  exact ⟨_, hstep, (apart_enrol { e with stack := rest } t q).stack,
    tasks_enrol { e with stack := rest } t q,
    ⟨_, _, timeline_enrol (e := { e with stack := rest }) ht q⟩,
    ((still_pop e rest).alone t).trans (alone_enrol _ t q)⟩

-- An active timeline has left its query for another one, of which it has not been told yet.
structure Leaving (e e' : Engine) (t : TimelineId) (q : QueryId) : Prop extends Renewed e e' t where
  query : (e'.timeline t).query = some q
  activated : (e'.timeline t).activated = none
  holders : (e'.timeline t).holders = (e.timeline t).holders + 1
  epoch : (e'.timeline t).epoch = (e.timeline t).epoch + 1
  current : e'.isStale t = false
  alone : Alone t e e'

theorem leaving_leaveQuery (h : Staffed e t) (hactive : (e.timeline t).phase.isActive = true)
    (q : QueryId) : Leaving e (((e.hold t).leaveQuery t (some q)).invalidateNow t) t q := by
  have ht := lt_of_active hactive
  have hsize : t < (e.hold t).timelines.length := size_hold e t ▸ ht
  have hT : ((e.hold t).leaveQuery t (some q)).timeline t =
      moved { e.timeline t with holders := (e.timeline t).holders + 1 } (some q) := by
    rw [timeline_leaveQuery hsize, timeline_hold_self ht]
  have htasks : ((e.hold t).leaveQuery t (some q)).tasks = e.tasks := tasks_leaveQuery ..
  have halone : Alone t e ((e.hold t).leaveQuery t (some q)) :=
    (alone_hold e t).trans ((alone_unsubscribe _ t).trans (alone_modifyTimeline _ t _))
  have hmanned : Manned ((e.hold t).leaveQuery t (some q)) t :=
    h.toManned.idle ((idle_hold e t).trans (idle_leaveQuery _ t (some q))) nofun
  generalize (e.hold t).leaveQuery t (some q) = e₀ at hT htasks halone hmanned
  have hactive₀ : (e₀.timeline t).phase.isActive = true := by
    rw [hT]
    exact hactive
  have ht₀ := lt_of_active hactive₀
  have htold := told_invalidateNow hmanned hactive₀
  obtain ⟨events, refetch, hnow⟩ := timeline_invalidateNow ht₀
  have hrenewed := htold.told t rfl
  have hjobs : e₀.jobsOf t = e.jobsOf t := jobsOf_congr htasks t
  refine ⟨⟨?_, hrenewed.phase, hrenewed.items, hrenewed.unread, ?_⟩, ?_, ?_, ?_, ?_,
    isStale_invalidateNow ht₀, halone.trans ⟨htold.unchanged, htold.others⟩⟩
  · rw [hrenewed.generation, hT]
    rfl
  · rw [hrenewed.jobs, hjobs]
  · rw [htold.query, hT]
    rfl
  · rw [htold.activated, hT]
    rfl
  · rw [hnow, hT]
    rfl
  · rw [hnow, hT]
    rfl

theorem Leaving.push (h : Leaving e e' t q) (frames : List Frame) :
    Leaving e (e'.push frames) t q where
  toRenewed := ⟨h.generation, h.phase, h.items, h.unread, h.jobs⟩
  query := h.query
  activated := h.activated
  holders := h.holders
  epoch := h.epoch
  current := h.current
  alone := h.alone.trans ((still_push e' frames).alone t)

theorem after_setQuery (h : Secluded e) (hrest : e.stack = [])
    (huses : (e.timeline t).uses q = true) (hne : q ≠ q') (hq' : q' < e.queries.length) :
    e.allows (.setQuery t (some q')) = true ∧ Leaving e (e.after (.setQuery t (some q'))) t q' ∧
      (e.after (.setQuery t (some q'))).stack =
        [.deactivate q, .activate q', .attach t q' ((e.timeline t).epoch + 1) .swap,
          .release (.timeline t)] := by
  have hactivated := (h.uses_iff hrest t q).mp huses
  have hactive := (h.held hactivated).1
  have hquery : (e.timeline t).query = some q := by
    unfold Timeline.uses at huses
    exact eq_of_beq (Bool.and_eq_true_iff.mp huses).2
  have hphase : (e.timeline t).phase ≠ .disposed := by
    intro heq
    rw [heq] at hactive
    cases hactive
  have hafter : e.after (.setQuery t (some q')) =
      (((e.hold t).leaveQuery t (some q')).invalidateNow t).push
        [.deactivate q, .activate q', .attach t q' ((e.timeline t).epoch + 1) .swap] := by
    refine (setQuery_eq (e.hold t) t (some q')).trans ?_
    rw [timeline_hold_self (lt_of_active hactive), if_neg]
    · simp only [hactivated, attachment, hactive, if_true]
      rfl
    · rintro (hdisposed | hsame)
      · exact hphase hdisposed
      · exact hne (Option.some.inj (hquery.symm.trans hsame))
  have hstack : (((e.hold t).leaveQuery t (some q')).invalidateNow t).stack =
      [.release (.timeline t)] := by
    rw [(within_invalidateNow _ t).stack]
    change ((e.hold t).unsubscribe t).stack = _
    rw [(apart_unsubscribe (e.hold t) t).stack]
    change .release (.timeline t) :: e.stack = _
    rw [hrest]
  refine ⟨?_, ?_, ?_⟩
  · simp [allows, isOpen_of_stack hrest, h.wired.alive_of_active hactive, hq']
  · rw [hafter]
    exact (leaving_leaveQuery (h.staffed t) hactive q').push _
  · rw [hafter]
    exact congrArg (_ ++ ·) hstack

theorem setQuery_ends (h : Secluded e) (hrest : e.stack = [])
    (huses : (e.timeline t).uses q = true) (hne : q ≠ q') (hq' : q' < e.queries.length) :
    ∃ e', e.Ends (.setQuery t (some q')) e' ∧ Invalidated e e' t q' ∧ Unchanged e e' ∧
      Spreads e e' [q, q'] (some t) := by
  obtain ⟨hallows, hleaving, hs₁⟩ := after_setQuery h hrest huses hne hq'
  have h₁ := h.after hallows rfl
  obtain ⟨hactive, hheld⟩ := h.held ((h.uses_iff hrest t q).mp huses)
  generalize he₁ : e.after (.setQuery t (some q')) = e₁ at hleaving hs₁ h₁
  -- the users of both queries are told, and those of none are among both
  obtain ⟨e₂, hreaches₂, hs₂, htold₂, -⟩ :=
    toggle_ends h₁.toUnwatched hs₁ (.inr ⟨rfl, h₁.deactivates hs₁⟩) (by simp)
  obtain ⟨e₃, hreaches₃, hs₃, htold₃, -⟩ :=
    toggle_ends (hreaches₂.unwatched h₁.toUnwatched) hs₂ (.inl rfl) (by simp)
  have htold := htold₂.trans htold₃ fun t' ht ht' => by
    rw [htold₂.activated, ht] at ht'
    exact hne (Option.some.inj ht')
  have hself := htold.others t <| by
    rw [htold₂.activated, hleaving.activated]
    exact not_or.mpr ⟨nofun, nofun⟩
  have hT₃ := hself.timeline
  have hcurrent : e₃.isStale t = false :=
    (isStale_congr (by rw [hT₃]) (by rw [hT₃]) fun q => (htold.unchanged q).2).trans
      hleaving.current
  have ht₃ : t < e₃.timelines.length := lt_of_active (by rw [hT₃, hleaving.phase]; rfl)
  rw [← hleaving.epoch, ← hT₃] at hs₃
  obtain ⟨e₄, hreaches₄, hs₄, htasks₄, ⟨subscription, activated, hT₄⟩, halone₄⟩ :=
    swap_ends ht₃ hs₃ hcurrent
  have hheld₄ : 2 ≤ (e₄.timeline t).holders := by
    rw [hT₄, hT₃]
    exact hleaving.holders ▸ Nat.succ_le_succ hheld
  obtain ⟨e', hreaches', hs', htasks', ⟨holders, hT'⟩, halone'⟩ := release_ends hs₄ hheld₄
  have hreaches := ((hreaches₂.trans hreaches₃).trans hreaches₄).trans hreaches'
  have h' := hreaches.secluded h₁
  have hrenewed := ((hleaving.toRenewed.trans_untouched hself).relinked hT₄ htasks₄).relinked hT'
    htasks'
  refine ⟨e', ⟨hallows, he₁ ▸ hreaches, hs'⟩, hrenewed.invalidated h.toUnwatched h'.toUnwatched hs' ?_, ?_⟩
  · rw [hT', hT₄, hT₃]
    exact hleaving.query
  · refine htold.spreads_alone h.toUnwatched hrest h'.toUnwatched hs' hleaving.alone
      (halone₄.trans halone') fun t' => ?_
    simp [htold₂.activated]

-- A timeline is activated.

omit [Patterns] in
theorem modify_concat {α : Type} (l : List α) (x : α) (f : α → α) :
    (l ++ [x]).modify l.length f = l ++ [f x] := by
  induction l with
  | nil => rfl
  | cons a l ih => simpa using ih

-- An activation has begun, and its query has not been told of it yet.
structure Launched (e e' : Engine) (t : TimelineId) : Prop where
  timeline : ∃ pump, e'.timeline t =
    { e.timeline t with
      holders := (e.timeline t).holders + 1
      phase := .activating
      generation := (e.timeline t).generation + 1
      pump
      hasRuntime := true }
  operations : e'.operations = e.operations ++ [⟨t, .activation, .running⟩]
  jobs : e'.jobsOf t = e.jobsOf t ++ [.pump t (e.timeline t).stream]
  steady : Steady e e'
  alone : Alone t e e'

theorem timeline_addOperation (ht : t < e.timelines.length) (kind : OperationKind) :
    (e.addOperation t kind).2.timeline t =
      { e.timeline t with holders := (e.timeline t).holders + 1 } :=
  timeline_modifyTimeline_self ht _

theorem launched_launch (ht : t < e.timelines.length) (frames : List Frame) :
    Launched e (((e.addOperation t .activation).2.launch t).push frames) t := by
  have hT := timeline_addOperation ht .activation
  have hsize : t < (e.addOperation t .activation).2.timelines.length := by
    simpa [addOperation, retain, modifyTimeline] using ht
  have hjobs : (((e.addOperation t .activation).2.launch t).push frames).jobs =
      e.jobs ++ [.pump t ((e.addOperation t .activation).2.timeline t).stream] :=
    jobs_spawn e _
  refine ⟨⟨some e.tasks.length, ?_⟩, rfl, ?_, .refl e, .refl e, fun t' hne => ⟨?_, ?_, ?_⟩⟩
  · refine (timeline_launch hsize).trans ?_
    rw [hT]
    rfl
  · rw [jobsOf_append hjobs t, hT]
    simp [Job.timeline]
  · refine (timeline_modifyTimeline_ne hne _).trans ?_
    exact timeline_modifyTimeline_ne hne _
  · rw [jobsOf_append hjobs t']
    simp [Job.timeline, Ne.symm hne]
  · intro k job hjob
    have hwork := (idle_spawn e (.pump t ((e.addOperation t .activation).2.timeline t).stream)).work
      k job
    refine hwork fun heq => hne (hjob.symm.trans (Option.some.inj heq).symm)

theorem after_startActivation (hrest : e.stack = []) (halive : e.isAlive (.timeline t) = true)
    (hquery : (e.timeline t).query = some q) (hinactive : (e.timeline t).phase = .inactive) :
    e.allows (.startActivation t true) = true ∧ Launched e (e.after (.startActivation t true)) t ∧
      (e.after (.startActivation t true)).stack =
        [.activate q, .attach t q (e.timeline t).epoch
          (.activation e.operations.length ((e.timeline t).generation + 1))] := by
  have ht := isAlive_lt halive
  have hT := timeline_addOperation ht .activation
  have hafter : e.after (.startActivation t true) =
      ((e.addOperation t .activation).2.launch t).push
        [.activate q, .attach t q (e.timeline t).epoch
          (.activation e.operations.length ((e.timeline t).generation + 1))] := by
    rcases startActivation_cases e t true with ⟨-, -, heq⟩ | ⟨hnot, -⟩
    · refine heq.trans ?_
      unfold launched
      rw [hT]
      simp only [hquery]
    · simp [hinactive] at hnot
  refine ⟨?_, ?_, ?_⟩
  · exact Bool.and_eq_true_iff.mpr ⟨by rw [hrest]; rfl, halive⟩
  · rw [hafter]
    exact launched_launch ht _
  · rw [hafter]
    exact congrArg (_ ++ ·) hrest

-- What an activation makes of its timeline before it asks for the first items. What an earlier
-- activation has left stays, unless the query has changed.
def primed (e : Engine) (t : TimelineId) : Timeline :=
  if e.isStale t then
    { e.timeline t with
      compiled := (e.current t).1
      compiledRevision := (e.current t).2
      unread := 0
      buffer := (e.timeline t).buffer.clear.1 }
  else e.timeline t

theorem primed_of_current (hcurrent : e.isStale t = false) : e.primed t = e.timeline t := by
  unfold primed
  rw [hcurrent]
  rfl

theorem primed_eq (e : Engine) (t : TimelineId) : ∃ compiled compiledRevision unread buffer,
    e.primed t = { e.timeline t with compiled, compiledRevision, unread, buffer } := by
  unfold primed
  split
  · exact ⟨_, _, _, _, rfl⟩
  · exact ⟨_, _, _, _, rfl⟩

theorem timeline_prepared_primed (ht : t < e.timelines.length) :
    ∃ events, (e.prepared t).timeline t = { e.primed t with events } := by
  rcases timeline_prepared ht with ⟨hcurrent, hT⟩ | ⟨hstale, events, hT⟩
  · rw [primed_of_current hcurrent]
    exact ⟨(e.timeline t).events, hT⟩
  · have hprimed : e.primed t = _ := if_pos hstale
    rw [hprimed]
    exact ⟨events, hT⟩

-- Where no query has changed, a timeline is to apply what it was to apply before.
theorem Unchanged.current (h : Unchanged e e') (hc : ∀ q, (e.query q).Coherent)
    (hc' : ∀ q, (e'.query q).Coherent) (hquery : (e'.timeline t).query = (e.timeline t).query) :
    e'.current t = e.current t := by
  unfold Engine.current
  rw [hquery]
  cases (e.timeline t).query with
  | none => rfl
  | some q => simp only [(hc q).compile, (hc' q).compile, (h q).1, (h q).2]

-- Neither who holds a timeline nor how it runs and is tied to its query matters.
theorem primed_linked {holders generation : Nat} {phase : Phase} {pump : Option TaskId}
    {hasRuntime : Bool} {subscription : Option (QueryId × SubscriptionId)}
    {activated : Option QueryId} (h : Unchanged e e') (hc : ∀ q, (e.query q).Coherent)
    (hc' : ∀ q, (e'.query q).Coherent)
    (hT : e'.timeline t =
      { e.timeline t with
        holders, generation, phase, pump, hasRuntime, subscription, activated }) :
    e'.primed t =
      { e.primed t with
        holders, generation, phase, pump, hasRuntime, subscription, activated } := by
  have hcurrent : e'.current t = e.current t := h.current hc hc' (by rw [hT])
  have hstale : e'.isStale t = e.isStale t :=
    isStale_congr (by rw [hT]) (by rw [hT]) fun q => (h q).2
  unfold primed
  rw [hstale, hcurrent, hT]
  split <;> rfl

-- An activation that attaches its timeline asks for the first items.
structure Attached (e e' : Engine) (t : TimelineId) (q : QueryId) (o : OperationId) : Prop where
  timeline : ∃ subscription events,
    e'.timeline t = { e.primed t with subscription, activated := some q, events }
  tasks : e'.tasks = e.tasks
  operations : e'.operations =
    e.operations.modify o fun operation =>
      { operation with status := .waiting (refill (e'.timeline t)) }
  steady : Steady e e'
  alone : Alone t e e'

theorem tasks_prepared (e : Engine) (t : TimelineId) : (e.prepared t).tasks = e.tasks := by
  unfold prepared
  split
  · exact tasks_recompile e t
  · rfl

theorem steady_enrol (e : Engine) (t : TimelineId) (q : QueryId) : Steady e (e.enrol t q) :=
  (queries_enrol e t q).2

theorem attach_activation (ht : t < e.timelines.length) (q : QueryId) (o : OperationId) :
    e.attach t q (e.timeline t).epoch (.activation o (e.timeline t).generation) =
      ((e.enrol t q).prepared t).setStatus o
        (.waiting (refill (((e.enrol t q).prepared t).timeline t))) := by
  have hg : ((e.enrol t q).timeline t).generation = (e.timeline t).generation := by
    rw [timeline_enrol ht]
  have hg' := (generation_prepared (e.enrol t q) t t).trans hg
  rw [attach_eq, if_neg (not_not_intro rfl)]
  dsimp only
  rw [prepare_eq, if_neg (not_not_intro hg), ← hg']
  rfl

theorem attached_prepared (hc : ∀ q, (e.query q).Coherent) (ht : t < e.timelines.length)
    (q : QueryId) (o : OperationId) :
    Attached e (((e.enrol t q).prepared t).setStatus o
      (.waiting (refill (((e.enrol t q).prepared t).timeline t)))) t q o := by
  have hwithin := within_prepared (e.enrol t q) t
  have htasks := tasks_prepared (e.enrol t q) t
  obtain ⟨events, hprepared⟩ := timeline_prepared_primed ((apart_enrol e t q).size ▸ ht)
  have hprimed := primed_linked (unchanged_enrol e t q) hc
    (fun q' => (calm_enrol Nothing e t q).coherent q' (hc q')) (timeline_enrol ht q)
  have halone := (alone_enrol e t q).trans
    (alone_of_tasks (unchanged_of_remembers hwithin.query) hwithin.others htasks)
  refine ⟨⟨some (q, (e.query q).registry.nextId), events, ?_⟩, htasks.trans (tasks_enrol e t q), ?_,
    (steady_enrol e t q).trans (steady_of_remembers hwithin.query), halone.trans (alone_setStatus ..)⟩
  · obtain ⟨compiled, compiledRevision, unread, buffer, heq⟩ := primed_eq e t
    refine hprepared.trans ?_
    rw [hprimed, heq]
  · exact congrArg (List.modify · o _) (hwithin.operations.trans (apart_enrol e t q).operations)

theorem attachment_ends {rest : List Frame} {o : OperationId} (hc : ∀ q, (e.query q).Coherent)
    (ht : t < e.timelines.length)
    (hs : e.stack = .attach t q (e.timeline t).epoch (.activation o (e.timeline t).generation) ::
      rest) :
    ∃ e', Reaches e e' ∧ e'.stack = rest ∧ Attached e e' t q o := by
  have hstep := reaches_perform hs rfl
  rw [show ({ e with stack := rest } : Engine).perform (.attach t q (e.timeline t).epoch
    (.activation o (e.timeline t).generation)) = _ from
      attach_activation (e := { e with stack := rest }) ht q o] at hstep
  have hattached := attached_prepared (e := { e with stack := rest }) hc ht q o
  refine ⟨_, hstep, ?_, ⟨hattached.timeline, hattached.tasks, hattached.operations,
    hattached.steady, ((still_pop e rest).alone t).trans hattached.alone⟩⟩
  exact (within_prepared _ t).stack.trans (apart_enrol { e with stack := rest } t q).stack

-- An activation has begun, and has asked for the first items.
structure Attempted (e e' : Engine) (t : TimelineId) : Prop where
  timeline : ∃ pump subscription events, e'.timeline t =
    { e.primed t with
      holders := (e.timeline t).holders + 1
      phase := .activating
      generation := (e.timeline t).generation + 1
      pump
      hasRuntime := true
      subscription
      activated := (e.timeline t).query
      events }
  operations : e'.operations =
    e.operations ++ [⟨t, .activation, .waiting (refill (e'.timeline t))⟩]
  jobs : e'.jobsOf t = e.jobsOf t ++ [.pump t (e.timeline t).stream]
  activations : ∀ q, (e'.query q).activations =
    (e.query q).activations + if (e.timeline t).query = some q then 1 else 0
  query : ∀ t', (e'.timeline t').query = (e.timeline t').query
  activated : ∀ t', t' ≠ t → (e'.timeline t').activated = (e.timeline t').activated
  unchanged : Unchanged e e'
  spreads : Spreads e e' (e.timeline t).query.toList (some t)

theorem attempt_ends_some (h : Unwatched e) (hrest : e.stack = [])
    (halive : e.isAlive (.timeline t) = true) (hquery : (e.timeline t).query = some q)
    (hinactive : (e.timeline t).phase = .inactive) :
    ∃ e', e.Ends (.startActivation t true) e' ∧ Attempted e e' t := by
  obtain ⟨hallows, hlaunched, hs₁⟩ := after_startActivation hrest halive hquery hinactive
  have h₁ := h.after hallows fun _ => nofun
  generalize he₁ : e.after (.startActivation t true) = e₁ at hlaunched hs₁ h₁
  obtain ⟨pump, hT₁⟩ := hlaunched.timeline
  obtain ⟨e₂, hreaches₂, hs₂, htold, hcount⟩ := toggle_ends h₁ hs₁ (.inl rfl) (by simp)
  have h₂ := hreaches₂.unwatched h₁
  -- the timeline does not listen yet
  have hself := htold.others t <| by
    rw [hT₁]
    exact fun hactivated => nomatch (h.activated_of_inactive hinactive).symm.trans hactivated
  have hT₂ := hself.timeline.trans hT₁
  have ht₂ : t < e₂.timelines.length := lt_of_active (by rw [hT₂]; rfl)
  obtain ⟨e', hreaches', hs', hattached⟩ := attachment_ends (o := e.operations.length)
    h₂.sound.coherent ht₂ (by rw [hs₂, hT₂])
  have hreaches := hreaches₂.trans hreaches'
  have hunchanged := hlaunched.alone.unchanged.trans htold.unchanged
  obtain ⟨subscription, events, hT⟩ := hattached.timeline
  rw [primed_linked hunchanged h.sound.coherent h₂.sound.coherent hT₂] at hT
  have hothers (t' : TimelineId) (hne : t' ≠ t) : e'.timeline t' = e₂.timeline t' ∧
      e₁.timeline t' = e.timeline t' :=
    ⟨(hattached.alone.others t' hne).timeline, (hlaunched.alone.others t' hne).timeline⟩
  obtain ⟨compiled, compiledRevision, unread, buffer, hprimed⟩ := primed_eq e t
  obtain ⟨hunchanged', hspreads⟩ : Unchanged e e' ∧ Spreads e e' [q] (some t) :=
    htold.spreads_alone h hrest (hreaches.unwatched h₁) hs' hlaunched.alone hattached.alone (by simp)
  refine ⟨e', ⟨hallows, he₁ ▸ hreaches, hs'⟩, ⟨pump, subscription, events, ?_⟩, ?_, ?_, ?_, ?_, ?_,
    hunchanged', ?_⟩
  · rw [hT, hquery]
  · rw [hattached.operations, htold.operations, hlaunched.operations, modify_concat]
  · rw [jobsOf_congr hattached.tasks, hself.jobs, hlaunched.jobs]
  · intro q'
    rw [hattached.steady, hcount, hlaunched.steady, hlaunched.steady, hquery, Frame.recount]
    by_cases hne : q' = q
    · rw [if_pos hne, if_pos (congrArg some hne.symm), hne]
    · rw [if_neg hne, if_neg fun heq => hne (Option.some.inj heq).symm, Nat.add_zero]
  · intro t'
    by_cases hne : t' = t
    · subst hne
      rw [hT, hprimed]
    · rw [(hothers t' hne).1, htold.query, (hothers t' hne).2]
  · intro t' hne
    rw [(hothers t' hne).1, htold.activated, (hothers t' hne).2]
  · rw [hquery]
    exact hspreads

-- Storage answers to an activation.

def filled (items : List Item) (timeline : Timeline) : Timeline :=
  (({ timeline with phase := .active } : Timeline).absorb items).1

theorem filled_eq (items : List Item) (T : Timeline) : ∃ events,
    filled items T = { T with phase := .active, buffer := (T.buffer.merge items).1, events } :=
  absorb_eq { T with phase := .active } items

theorem complete_activation {o : OperationId} {r : FetchRequest}
    (hop : e.operations[o]? = some ⟨t, .activation, .waiting r⟩)
    (hg : (e.timeline t).generation = r.generation) (items : List Item) :
    e.complete o (.ok items) =
      ((e.modifyTimeline t (filled items)).setStatus o (.done (.ok .activated))).release
        (.timeline t) := by
  have hg' : ((e.setStatus o .running).timeline t).generation = r.generation := hg
  unfold complete completeActivation
  simp only [hop]
  rw [if_neg (not_not_intro hg')]
  exact (close_setStatus (e.modifyTimeline t (filled items)) o .running _).trans
    (close_of_waiting hop)

-- An activation has got the first items.
structure Answered (e e' : Engine) (t : TimelineId) (o : OperationId) (items : List Item) :
    Prop where
  timeline : ∃ holders, e'.timeline t = { filled items (e.timeline t) with holders }
  tasks : e'.tasks = e.tasks
  queries : e'.queries = e.queries
  operations : e'.operations =
    e.operations.modify o fun operation => { operation with status := .done (.ok .activated) }
  alone : Alone t e e'

theorem answer_ends {o : OperationId} {r : FetchRequest} (hrest : e.stack = [])
    (ht : t < e.timelines.length) (hop : e.operations[o]? = some ⟨t, .activation, .waiting r⟩)
    (hg : (e.timeline t).generation = r.generation) (hheld : 2 ≤ (e.timeline t).holders)
    (items : List Item) :
    ∃ e', e.Ends (.answer (.operation o) (.ok items)) e' ∧ Answered e e' t o items := by
  have hallows : e.allows (.answer (.operation o) (.ok items)) = true := by
    simp [allows, hrest, awaits, hop]
  have hT : ((e.modifyTimeline t (filled items)).setStatus o (.done (.ok .activated))).timeline t =
      filled items (e.timeline t) := timeline_modifyTimeline_self ht _
  have hafter : e.after (.answer (.operation o) (.ok items)) =
      ((e.modifyTimeline t (filled items)).setStatus o (.done (.ok .activated))).dropHold t := by
    refine (complete_activation hop hg items).trans (release_eq_dropHold ?_)
    obtain ⟨events, hfilled⟩ := filled_eq items (e.timeline t)
    rw [hT, hfilled]
    exact hheld
  have hdropped := timeline_dropHold
    ((e.modifyTimeline t (filled items)).setStatus o (.done (.ok .activated))) t t
  rw [hT] at hdropped
  refine ⟨_, ⟨hallows, .refl _, hafter ▸ hrest⟩, ?_, ?_, ?_, ?_, ?_⟩
  · rw [hafter]
    exact ⟨_, hdropped⟩
  · rw [hafter]
    rfl
  · rw [hafter]
    rfl
  · rw [hafter]
    rfl
  · rw [hafter]
    exact ((alone_modifyTimeline e t (filled items)).trans (alone_setStatus ..)).trans
      (alone_modifyTimeline _ t _)

theorem Invalidated.trans_untouched (h : Invalidated e e₁ t q) (h' : Untouched e₁ e' t)
    (hunchanged : Unchanged e₁ e') : Invalidated e e' t q := by
  refine ⟨h.toRenewed.trans_untouched h', ?_, ?_, ?_⟩
  · rw [h'.timeline, h.query]
  · rw [h'.timeline, h.compiled, (hunchanged q).1]
  · obtain ⟨k, hk⟩ := h.work
    refine ⟨k, fun k' r => ?_⟩
    rw [h'.timeline, ← hk k' r]
    exact h'.work k' _ rfl

theorem Spreads.trans_alone (h : Spreads e e₁ queries (some t)) (h' : Alone t e₁ e') :
    Spreads e e' queries (some t) where
  told u q hne hq huses :=
    (h.told u q hne hq huses).trans_untouched (h'.others u fun heq => hne (heq ▸ rfl)) h'.unchanged
  others u hne hunused := (h.others u hne hunused).trans (h'.others u fun heq => hne (heq ▸ rfl))

-- A timeline was activated by way of an engine in which its activation waits for storage, and no
-- other fetch was begun for it.
structure Activated (e e₁ e' : Engine) (t : TimelineId) (q : QueryId) : Prop where
  generation : (e'.timeline t).generation = (e.timeline t).generation + 1
  phase : (e'.timeline t).phase = .active
  compiled : (e₁.timeline t).compiled = (e.query q).expr.compile
  asked : e₁.operations = e.operations ++ [⟨t, .activation, .waiting (refill (e₁.timeline t))⟩]
  answered : e'.operations = e.operations ++ [⟨t, .activation, .done (.ok .activated)⟩]
  jobs : e'.jobsOf t = e.jobsOf t ++ [.pump t (e.timeline t).stream]

theorem Attempted.answer_ends (hattempted : Attempted e e₁ t) (hrest : e₁.stack = [])
    (halive : e.isAlive (.timeline t) = true) (items : List Item) :
    ∃ e', e₁.Ends (.answer (.operation e.operations.length) (.ok items)) e' ∧
      Answered e₁ e' t e.operations.length items := by
  obtain ⟨pump, subscription, events, hT⟩ := hattempted.timeline
  refine Engine.answer_ends hrest (lt_of_active (by rw [hT]; rfl))
    (by rw [hattempted.operations, List.getElem?_concat_length]) rfl ?_ items
  rw [hT]
  exact Nat.succ_le_succ (holders_pos halive)

theorem activate_ends (h : Secluded e) (hrest : e.stack = [])
    (halive : e.isAlive (.timeline t) = true) (hquery : (e.timeline t).query = some q)
    (hinactive : (e.timeline t).phase = .inactive) (items : List Item) :
    ∃ e₁ e', e.Ends (.startActivation t true) e₁ ∧
      e₁.Ends (.answer (.operation e.operations.length) (.ok items)) e' ∧
      Activated e e₁ e' t q ∧ Unchanged e e' ∧ Spreads e e' [q] (some t) := by
  obtain ⟨e₁, hends₁, hattempted⟩ := attempt_ends_some h.toUnwatched hrest halive hquery hinactive
  obtain ⟨e', hends, hanswered⟩ := hattempted.answer_ends hends₁.2.2 halive items
  have h₁ := hends₁.secluded h rfl
  obtain ⟨pump, subscription, events, hT₁⟩ := hattempted.timeline
  obtain ⟨holders, hT⟩ := hanswered.timeline
  obtain ⟨events', hfilled⟩ := filled_eq items (e₁.timeline t)
  have hcurrent := applies_current h₁.sound h₁.wired ((hattempted.query t).trans hquery)
    (h₁.current hends₁.2.2 (by rw [hT₁]; rfl))
  have hspreads := hattempted.spreads.trans_alone hanswered.alone
  rw [hquery] at hspreads
  refine ⟨e₁, e', hends₁, hends, ⟨?_, ?_, ?_, hattempted.operations, ?_, ?_⟩,
    hattempted.unchanged.trans hanswered.alone.unchanged, hspreads⟩
  · rw [hT, hfilled, hT₁]
  · rw [hT, hfilled]
  · rw [hcurrent.2.1, (hattempted.unchanged q).1]
  · rw [hanswered.operations, hattempted.operations, modify_concat]
  · rw [jobsOf_congr hanswered.tasks, hattempted.jobs]

-- What a change or a toggle of a query comes to, if nobody from outside has a hand in the queries
-- and no call is running. It comes to one end (`Ends.unique`).
theorem query_effects {moves : List Move} (hruns : ({} : Engine).Runs moves)
    (hsecluded : ∀ m ∈ moves, m.isForeign = false)
    (hrest : (({} : Engine).replay moves).stack = []) :
    let e := ({} : Engine).replay moves
    -- a query is changed
    (∀ q expr, q < e.queries.length →
      ∃ e', e.Ends (.setExpression q expr) e' ∧ Replaced e e' q expr ∧
        Spreads e e' [q] none) ∧
    (∀ q text, q < e.queries.length →
      ∃ e', e.Ends (.setSource q text) e' ∧
        Replaced e e' q ((Expr.parse text).toOption.getD .contradiction) ∧
        Spreads e e' [q] none) ∧
    -- a timeline is activated, and storage answers
    (∀ t q items, e.isAlive (.timeline t) = true → (e.timeline t).query = some q →
      (e.timeline t).phase = .inactive →
        ∃ e₁ e', e.Ends (.startActivation t true) e₁ ∧
          e₁.Ends (.answer (.operation e.operations.length) (.ok items)) e' ∧
          Activated e e₁ e' t q ∧ Unchanged e e' ∧ Spreads e e' [q] (some t)) ∧
    -- a timeline is deactivated
    (∀ t q, (e.timeline t).uses q = true →
      ∃ e', e.Ends (.deactivate t) e' ∧ Deactivated e e' t ∧ Unchanged e e' ∧
        Spreads e e' [q] (some t)) ∧
    -- an active timeline is given another query
    (∀ t q q', (e.timeline t).uses q = true → q ≠ q' → q' < e.queries.length →
      ∃ e', e.Ends (.setQuery t (some q')) e' ∧ Invalidated e e' t q' ∧ Unchanged e e' ∧
        Spreads e e' [q, q'] (some t)) := by
  have h := secluded_init.replay hruns hsecluded
  exact ⟨fun q expr hq => setExpression_ends h hrest hq expr,
    fun q text hq => setSource_ends h hrest hq text,
    fun t q items halive hquery hinactive => activate_ends h hrest halive hquery hinactive items,
    fun t q huses => deactivate_ends h hrest huses,
    fun t q q' huses hne hq' => setQuery_ends h hrest huses hne hq'⟩

end

-- Three timelines have one query and a fourth has another. All are active but the last that shares
-- its query.
def sharedQuery : List Move :=
  [.addQuery .contradiction none, .addQuery .contradiction none, .addChannel 4,
    .addTimeline {} 0 0 (some 0) true, .addTimeline {} 0 0 (some 0) true,
    .addTimeline {} 0 0 (some 0) true, .addTimeline {} 0 0 (some 1) true,
    .startActivation 0 true, .step, .step, .startActivation 3 true, .step, .step,
    .startActivation 1 true, .step, .step, .step, .step, .step, .step, .step]

theorem query_effects_sharedQuery :
    let e := ({} : Engine).replay sharedQuery
    ({} : Engine).Runs sharedQuery ∧ (∀ m ∈ sharedQuery, m.isForeign = false) ∧ e.stack = [] ∧
      (∃ e', e.Ends (.setExpression 0 (.not .contradiction)) e' ∧ Invalidated e e' 0 0 ∧
        Invalidated e e' 1 0 ∧ Untouched e e' 2 ∧ Untouched e e' 3) ∧
      (∃ e', e.Ends (.setSource 1 "(") e' ∧ Untouched e e' 0 ∧ Untouched e e' 1 ∧
        Untouched e e' 2 ∧ Invalidated e e' 3 1) ∧
      (∃ e₁ e', e.Ends (.startActivation 2 true) e₁ ∧
        e₁.Ends (.answer (.operation e.operations.length) (.ok [])) e' ∧ Activated e e₁ e' 2 0 ∧
        Invalidated e e' 0 0 ∧ Invalidated e e' 1 0 ∧ Untouched e e' 3) ∧
      (∃ e', e.Ends (.deactivate 0) e' ∧ Deactivated e e' 0 ∧ Invalidated e e' 1 0 ∧
        Untouched e e' 2 ∧ Untouched e e' 3) ∧
      ∃ e', e.Ends (.setQuery 0 (some 1)) e' ∧ Invalidated e e' 0 1 ∧ Invalidated e e' 1 0 ∧
        Untouched e e' 2 ∧ Invalidated e e' 3 1 := by
  have hruns : ({} : Engine).Runs sharedQuery := by decide
  have hsecluded : ∀ m ∈ sharedQuery, m.isForeign = false := by decide
  have hrest : (({} : Engine).replay sharedQuery).stack = [] := List.isEmpty_iff.mp (by decide)
  obtain ⟨hexpression, hsource, hactivate, hdeactivate, hquery⟩ :=
    query_effects hruns hsecluded hrest
  refine ⟨hruns, hsecluded, hrest, ?_, ?_, ?_, ?_, ?_⟩
  · obtain ⟨e', hends, -, hspreads⟩ := hexpression 0 (.not .contradiction) (by decide)
    exact ⟨e', hends, hspreads.told 0 0 nofun (by decide) (by decide),
      hspreads.told 1 0 nofun (by decide) (by decide), hspreads.others 2 nofun (by decide),
      hspreads.others 3 nofun (by decide)⟩
  · obtain ⟨e', hends, -, hspreads⟩ := hsource 1 "(" (by decide)
    exact ⟨e', hends, hspreads.others 0 nofun (by decide), hspreads.others 1 nofun (by decide),
      hspreads.others 2 nofun (by decide), hspreads.told 3 1 nofun (by decide) (by decide)⟩
  · obtain ⟨e₁, e', hends₁, hends, hactivated, -, hspreads⟩ :=
      hactivate 2 0 [] (by decide) (by decide) (by decide)
    exact ⟨e₁, e', hends₁, hends, hactivated,
      hspreads.told 0 0 (by decide) (by decide) (by decide),
      hspreads.told 1 0 (by decide) (by decide) (by decide),
      hspreads.others 3 (by decide) (by decide)⟩
  · obtain ⟨e', hends, hdeactivated, -, hspreads⟩ := hdeactivate 0 0 (by decide)
    exact ⟨e', hends, hdeactivated, hspreads.told 1 0 (by decide) (by decide) (by decide),
      hspreads.others 2 (by decide) (by decide), hspreads.others 3 (by decide) (by decide)⟩
  · obtain ⟨e', hends, hinvalidated, -, hspreads⟩ := hquery 0 0 1 (by decide) (by decide) (by decide)
    exact ⟨e', hends, hinvalidated, hspreads.told 1 0 (by decide) (by decide) (by decide),
      hspreads.others 2 (by decide) (by decide),
      hspreads.told 3 1 (by decide) (by decide) (by decide)⟩

end FilteredFeed.Engine
