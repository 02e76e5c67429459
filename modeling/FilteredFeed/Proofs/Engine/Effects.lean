import FilteredFeed.Proofs.Engine.Secluded

namespace FilteredFeed.Engine

open FilteredFeed.Feed FilteredFeed.Filter FilteredFeed.Listener FilteredFeed.Timeline

variable [Patterns]
variable {e e' e'' : Engine} {t : TimelineId} {q : QueryId} {f : Frame} {rest : List Frame}
variable {revision : Nat}

-- Steps lead from one engine to another.
inductive Reaches : Engine → Engine → Prop where
  | refl (e : Engine) : Reaches e e
  | step {e e' : Engine} (hallows : e.allows .step = true) (h : Reaches (e.after .step) e') :
      Reaches e e'

theorem Reaches.trans (h : Reaches e e') (h' : Reaches e' e'') : Reaches e e'' := by
  induction h with
  | refl => exact h'
  | step hallows _ ih => exact .step hallows (ih h')

theorem Reaches.unwatched (h : Reaches e e') (hu : Unwatched e) : Unwatched e' := by
  induction h with
  | refl => exact hu
  | step hallows _ ih => exact ih (hu.after hallows fun _ => nofun)

theorem Reaches.secluded (h : Reaches e e') (hs : Secluded e) : Secluded e' := by
  induction h with
  | refl => exact hs
  | step hallows _ ih => exact ih (hs.after hallows rfl)

-- Where no call is running there are no more steps.
theorem Reaches.unique (h : Reaches e e') (hs : e'.stack = []) (h' : Reaches e e'')
    (hs' : e''.stack = []) : e' = e'' := by
  have hends {e : Engine} (hs : e.stack = []) : e.allows .step ≠ true := by
    simp [allows, Engine.step, hs]
  induction h with
  | refl e =>
      cases h' with
      | refl => rfl
      | step hallows _ => exact absurd hallows (hends hs)
  | step hallows _ ih =>
      cases h' with
      | refl => exact absurd hallows (hends hs')
      | step _ h' => exact ih hs h'

-- The first call of the stack is done.
theorem reaches_perform (hs : e.stack = f :: rest) (hf : f.isObserver = false) :
    Reaches e (({ e with stack := rest } : Engine).perform f) := by
  have hallows : e.allows .step = true := by
    unfold allows Engine.step
    rw [hs]
    cases f with
    | observer => cases hf
    | _ => rfl
  obtain ⟨f', rest', hs', -, hafter⟩ := after_step hallows
  obtain ⟨rfl, rfl⟩ := List.cons.inj (hs.symm.trans hs')
  exact .step hallows (hafter ▸ .refl _)

-- All background work that was ever started for a timeline.
def jobsOf (e : Engine) (t : TimelineId) : List Job := e.jobs.filter fun job => job.timeline == t

theorem jobsOf_congr (h : e'.tasks = e.tasks) (t : TimelineId) : e'.jobsOf t = e.jobsOf t := by
  unfold jobsOf
  rw [jobs_congr h]

-- Nothing happens to a timeline, and nothing is begun or ended for it.
structure Untouched (e e' : Engine) (t : TimelineId) : Prop where
  timeline : e'.timeline t = e.timeline t
  jobs : e'.jobsOf t = e.jobsOf t
  work : ∀ k job, job.timeline = t → (e'.work k = some job ↔ e.work k = some job)

-- An active timeline was invalidated, once.
structure Renewed (e e' : Engine) (t : TimelineId) : Prop where
  generation : (e'.timeline t).generation = (e.timeline t).generation + 1
  phase : (e'.timeline t).phase = .invalidated
  items : (e'.timeline t).buffer.items = []
  unread : (e'.timeline t).unread = 0
  jobs : e'.jobsOf t = e.jobsOf t ++ [.refetch t (refill (e'.timeline t))]

theorem Untouched.refl (e : Engine) (t : TimelineId) : Untouched e e t :=
  ⟨rfl, rfl, fun _ _ _ => Iff.rfl⟩

theorem Untouched.trans (h : Untouched e e' t) (h' : Untouched e' e'' t) : Untouched e e'' t :=
  ⟨h'.timeline.trans h.timeline, h'.jobs.trans h.jobs,
    fun k job hjob => (h'.work k job hjob).trans (h.work k job hjob)⟩

theorem Untouched.trans_renewed (h : Untouched e e' t) (h' : Renewed e' e'' t) :
    Renewed e e'' t where
  generation := by rw [h'.generation, h.timeline]
  phase := h'.phase
  items := h'.items
  unread := h'.unread
  jobs := by rw [h'.jobs, h.jobs]

theorem Renewed.trans_untouched (h : Renewed e e' t) (h' : Untouched e' e'' t) :
    Renewed e e'' t where
  generation := by rw [h'.timeline, h.generation]
  phase := by rw [h'.timeline, h.phase]
  items := by rw [h'.timeline, h.items]
  unread := by rw [h'.timeline, h.unread]
  jobs := by rw [h'.jobs, h'.timeline, h.jobs]

theorem untouched_of_tasks (ht : e'.timeline t = e.timeline t) (htasks : e'.tasks = e.tasks) :
    Untouched e e' t := by
  refine ⟨ht, jobsOf_congr htasks t, fun k job _ => ?_⟩
  rw [work_congr htasks]

theorem Idle.untouched {d : Option TimelineId} (h : Idle d e e') (hd : d ≠ some t)
    (ht : e'.timeline t = e.timeline t) (hjobs : e'.jobsOf t = e.jobsOf t) : Untouched e e' t :=
  ⟨ht, hjobs, fun k job hjob => h.work k job (hjob ▸ hd)⟩

-- No query is changed.
def Unchanged (e e' : Engine) : Prop :=
  ∀ q, (e'.query q).expr = (e.query q).expr ∧ (e'.query q).revision = (e.query q).revision

theorem Unchanged.refl (e : Engine) : Unchanged e e := fun _ => ⟨rfl, rfl⟩

theorem Unchanged.trans (h : Unchanged e e') (h' : Unchanged e' e'') : Unchanged e e'' :=
  fun q => ⟨(h' q).1.trans (h q).1, (h' q).2.trans (h q).2⟩

theorem unchanged_of_remembers (h : ∀ q, (e.query q).Remembers (e'.query q)) : Unchanged e e' :=
  fun q => ⟨(h q).expr, (h q).revision⟩

theorem unchanged_of_queries (h : e'.queries = e.queries) : Unchanged e e' := by
  intro q
  unfold query
  rw [h]
  exact ⟨rfl, rfl⟩

theorem unchanged_modifyQuery (e : Engine) (q : QueryId) {g : Query Target → Query Target}
    (hexpr : (g (e.query q)).expr = (e.query q).expr)
    (hrevision : (g (e.query q)).revision = (e.query q).revision) :
    Unchanged e (e.modifyQuery q g) := by
  intro q'
  rcases query_modifyQuery e q q' g with hQ | ⟨rfl, hQ⟩
  · rw [hQ]
    exact ⟨rfl, rfl⟩
  · rw [hQ]
    exact ⟨hexpr, hrevision⟩

-- No query is activated or given back.
def Steady (e e' : Engine) : Prop := ∀ q, (e'.query q).activations = (e.query q).activations

theorem Steady.refl (e : Engine) : Steady e e := fun _ => rfl

theorem Steady.trans (h : Steady e e') (h' : Steady e' e'') : Steady e e'' :=
  fun q => (h' q).trans (h q)

theorem steady_of_queries (h : e'.queries = e.queries) : Steady e e' := by
  intro q
  unfold query
  rw [h]

theorem steady_of_remembers (h : ∀ q, (e.query q).Remembers (e'.query q)) : Steady e e' :=
  fun q => (h q).activations

theorem steady_modifyQuery (e : Engine) (q : QueryId) {g : Query Target → Query Target}
    (h : (g (e.query q)).activations = (e.query q).activations) : Steady e (e.modifyQuery q g) := by
  intro q'
  rcases query_modifyQuery e q q' g with hQ | ⟨rfl, hQ⟩
  · rw [hQ]
  · rw [hQ, h]

-- What a round of notifications does: those whom it concerns are invalidated, and all others are
-- untouched.
structure Told (concerned : TimelineId → Prop) (e e' : Engine) : Prop where
  told : ∀ t, concerned t → Renewed e e' t
  others : ∀ t, ¬ concerned t → Untouched e e' t
  query : ∀ t, (e'.timeline t).query = (e.timeline t).query
  activated : ∀ t, (e'.timeline t).activated = (e.timeline t).activated
  operations : e'.operations = e.operations
  unchanged : Unchanged e e'

variable {p p' : TimelineId → Prop}

theorem Told.congr (h : Told p e e') (hp : ∀ t, p t ↔ p' t) : Told p' e e' :=
  ⟨fun t ht => h.told t ((hp t).mpr ht), fun t ht => h.others t fun hpt => ht ((hp t).mp hpt),
    h.query, h.activated, h.operations, h.unchanged⟩

-- Rounds that do not concern the same timelines can follow each other.
theorem Told.trans (h : Told p e e') (h' : Told p' e' e'') (hdisjoint : ∀ t, p t → ¬ p' t) :
    Told (fun t => p t ∨ p' t) e e'' where
  told t ht := by
    rcases ht with ht | ht
    · exact (h.told t ht).trans_untouched (h'.others t (hdisjoint t ht))
    · exact (h.others t fun hpt => hdisjoint t hpt ht).trans_renewed (h'.told t ht)
  others t ht :=
    (h.others t fun hpt => ht (.inl hpt)).trans (h'.others t fun hpt => ht (.inr hpt))
  query t := (h'.query t).trans (h.query t)
  activated t := (h'.activated t).trans (h.activated t)
  operations := h'.operations.trans h.operations
  unchanged := h.unchanged.trans h'.unchanged

-- Concerns nobody.
structure Still (e e' : Engine) : Prop where
  timelines : e'.timelines = e.timelines
  tasks : e'.tasks = e.tasks
  operations : e'.operations = e.operations
  unchanged : Unchanged e e'

theorem Still.timeline (h : Still e e') (t : TimelineId) : e'.timeline t = e.timeline t := by
  unfold Engine.timeline
  rw [h.timelines]

theorem Still.told (h : Still e e') : Told (fun _ => False) e e' where
  told _ := nofun
  others t _ := untouched_of_tasks (h.timeline t) h.tasks
  query t := congrArg Timeline.query (h.timeline t)
  activated t := congrArg Timeline.activated (h.timeline t)
  operations := h.operations
  unchanged := h.unchanged

theorem still_modifyQuery (e : Engine) (q : QueryId) {g : Query Target → Query Target}
    (hexpr : (g (e.query q)).expr = (e.query q).expr)
    (hrevision : (g (e.query q)).revision = (e.query q).revision) :
    Still e (e.modifyQuery q g) :=
  ⟨rfl, rfl, rfl, unchanged_modifyQuery e q hexpr hrevision⟩

-- A timeline is told of a change.

theorem jobsOf_append {more : List Job} (h : e'.jobs = e.jobs ++ more) (t : TimelineId) :
    e'.jobsOf t = e.jobsOf t ++ more.filter fun job => job.timeline == t := by
  unfold jobsOf
  rw [h, List.filter_append]

theorem timeline_invalidateNow (ht : t < e.timelines.length) :
    ∃ events refetch, (e.invalidateNow t).timeline t =
      { renewed (e.timeline t) (e.current t) with refetch, events } := by
  have hsize := (within_invalidateQuietly e t).size
  obtain ⟨events, hemit⟩ :=
    emit_eq ((e.invalidateQuietly t).2.timeline t) (e.invalidateQuietly t).1
  have hnow : (e.invalidateNow t).timeline t =
      ((e.invalidateQuietly t).2.timeline t).emit (e.invalidateQuietly t).1 :=
    timeline_modifyTimeline_self (hsize ▸ ht) _
  refine ⟨events, ((e.invalidateQuietly t).2.timeline t).refetch, ?_⟩
  rw [hnow, hemit, timeline_invalidateQuietly ht]

theorem refill_invalidateNow (ht : t < e.timelines.length) :
    refill ((e.invalidateQuietly t).2.timeline t) = refill ((e.invalidateNow t).timeline t) := by
  obtain ⟨events, refetch, hT⟩ := timeline_invalidateNow ht
  rw [hT, timeline_invalidateQuietly ht]
  rfl

theorem renewed_invalidateNow (hactive : (e.timeline t).phase.isActive = true)
    (hruntime : (e.timeline t).hasRuntime = true) : Renewed e (e.invalidateNow t) t := by
  have ht := lt_of_active hactive
  have hjobs : (e.invalidateNow t).jobs = _ := jobs_invalidateQuietly e t
  rw [hactive, hruntime, Bool.and_self, if_pos rfl, refill_invalidateNow ht] at hjobs
  obtain ⟨events, refetch, hT⟩ := timeline_invalidateNow ht
  refine ⟨?_, ?_, ?_, ?_, ?_⟩
  · rw [hT]
    rfl
  · rw [hT]
    simp [renewed, hactive]
  · rw [hT]
    exact Buffer.items_clear _
  · rw [hT]
    rfl
  · rw [jobsOf_append hjobs t]
    simp [Job.timeline]

theorem same_uses_invalidateNow (e : Engine) (t t' : TimelineId) :
    ((e.invalidateNow t).timeline t').query = (e.timeline t').query ∧
      ((e.invalidateNow t).timeline t').activated = (e.timeline t').activated := by
  by_cases hne : t' = t
  · subst hne
    by_cases ht : t' < e.timelines.length
    · obtain ⟨events, refetch, hT⟩ := timeline_invalidateNow ht
      rw [hT]
      exact ⟨rfl, rfl⟩
    · have hle := Nat.le_of_not_lt ht
      rw [timeline_of_le hle, timeline_of_le ((within_invalidateNow e t').size ▸ hle)]
      exact ⟨rfl, rfl⟩
  · rw [(within_invalidateNow e t).others t' hne]
    exact ⟨rfl, rfl⟩

theorem told_invalidateNow (hm : Manned e t) (hactive : (e.timeline t).phase.isActive = true) :
    Told (fun t' => t' = t) e (e.invalidateNow t) where
  told t' ht := by
    subst ht
    exact renewed_invalidateNow hactive (hm.runtime hactive)
  others t' ht := by
    have hidle : Idle (some t) e (e.invalidateNow t) :=
      hm.idle_invalidateQuietly.trans (idle_emit ..).of_none
    refine hidle.untouched (fun heq => ht (Option.some.inj heq).symm)
      ((within_invalidateNow e t).others t' ht) ?_
    have hjobs : (e.invalidateNow t).jobs = _ := jobs_invalidateQuietly e t
    rw [jobsOf_append hjobs t']
    split
    · simp [Job.timeline, Ne.symm ht]
    · simp
  query t' := (same_uses_invalidateNow e t t').1
  activated t' := (same_uses_invalidateNow e t t').2
  operations := (within_invalidateNow e t).operations
  unchanged := unchanged_of_remembers (within_invalidateNow e t).query

-- A hold on a timeline that is not the last one is given up.
theorem release_eq_dropHold (h : 2 ≤ (e.timeline t).holders) :
    e.release (.timeline t) = e.dropHold t := by
  rw [release_eq, if_neg]
  intro hlast
  have ht := isLastHold_lt hlast
  rw [isLastHold, List.getElem?_eq_getElem ht] at hlast
  simp only [timeline, List.getElem?_eq_getElem ht, Option.getD_some] at h
  have hone : e.timelines[t].holders = 1 := by simpa using hlast
  omega

-- Neither who holds a timeline nor how it is tied to its query matters.
theorem Renewed.relinked (h : Renewed e e' t) {holders : Nat}
    {subscription : Option (QueryId × SubscriptionId)} {activated : Option QueryId}
    (hT : e''.timeline t = { e'.timeline t with holders, subscription, activated })
    (htasks : e''.tasks = e'.tasks) : Renewed e e'' t := by
  have hjobs := jobsOf_congr htasks t
  refine ⟨?_, ?_, ?_, ?_, ?_⟩
  · rw [hT, ← h.generation]
  · rw [hT, ← h.phase]
  · rw [hT, ← h.items]
  · rw [hT, ← h.unread]
  · rw [hjobs, h.jobs, hT]
    rfl

theorem Told.dropHold (h : Told (fun t' => t' = t) e e') :
    Told (fun t' => t' = t) e (e'.dropHold t) where
  told t' ht := by
    subst ht
    exact (h.told t' rfl).relinked (timeline_dropHold e' t' t') rfl
  others t' ht := (h.others t' ht).trans
    (untouched_of_tasks (timeline_modifyTimeline_ne ht _) rfl)
  query t' := by rw [timeline_dropHold, h.query]
  activated t' := by rw [timeline_dropHold, h.activated]
  operations := h.operations
  unchanged := h.unchanged

theorem still_pop (e : Engine) (rest : List Frame) : Still e { e with stack := rest } :=
  ⟨rfl, rfl, rfl, .refl _⟩

theorem still_push (e : Engine) (frames : List Frame) : Still e (e.push frames) :=
  ⟨rfl, rfl, rfl, .refl _⟩

theorem Still.trans (h : Still e e') (h' : Still e' e'') : Still e e'' :=
  ⟨h'.timelines.trans h.timelines, h'.tasks.trans h.tasks, h'.operations.trans h.operations,
    h.unchanged.trans h'.unchanged⟩

-- What concerns nobody can come before and after.
theorem Still.trans_told (h : Still e e') (h' : Told p e' e'') : Told p e e'' :=
  (h.told.trans h' fun _ => nofun).congr fun _ => ⟨fun ht => ht.resolve_left id, .inr⟩

theorem Told.trans_still (h : Told p e e') (h' : Still e' e'') : Told p e e'' :=
  (h.trans h'.told fun _ _ => id).congr fun _ => ⟨fun ht => ht.resolve_right id, .inl⟩

-- An active timeline that is told of a change heeds it.
theorem Prompt.onInvalidated (hp : Prompt e) (hactive : (e.timeline t).phase.isActive = true)
    (revision : Nat) : e.onInvalidated t revision = e.invalidateNow t := by
  have hphase : (e.timeline t).phase ≠ .disposed := by
    intro heq
    rw [heq] at hactive
    cases hactive
  unfold Engine.onInvalidated
  dsimp only
  rw [if_neg hphase, hp t]

theorem call_ends (h : Unwatched e) {revision : Nat}
    (hs : e.stack = .call (.timeline t) revision :: .release (.timeline t) :: rest)
    (hactive : (e.timeline t).phase.isActive = true) (hheld : 2 ≤ (e.timeline t).holders) :
    ∃ e', Reaches e e' ∧ e'.stack = rest ∧ Told (fun t' => t' = t) e e' ∧ Steady e e' ∧
      ∀ q, (e'.query q).registry = (e.query q).registry := by
  have hcall := reaches_perform hs rfl
  have hpopped := still_pop e (.release (.timeline t) :: rest)
  have hmanned : Manned { e with stack := .release (.timeline t) :: rest } t :=
    (h.staffed t).toManned.idle (d := none) (idle_of_same rfl rfl) nofun
  have heq : ({ e with stack := .release (.timeline t) :: rest } : Engine).perform
      (.call (.timeline t) revision) =
        ({ e with stack := .release (.timeline t) :: rest } : Engine).invalidateNow t :=
    Prompt.onInvalidated (e := { e with stack := .release (.timeline t) :: rest }) h.prompt
      hactive revision
  have hwithin := within_invalidateNow { e with stack := .release (.timeline t) :: rest } t
  have htold := hpopped.trans_told (told_invalidateNow hmanned hactive)
  have hholders : ((({ e with stack := .release (.timeline t) :: rest } : Engine).invalidateNow
      t).timeline t).holders = (e.timeline t).holders := by
    obtain ⟨events, refetch, hT⟩ := timeline_invalidateNow
      (e := { e with stack := .release (.timeline t) :: rest }) (lt_of_active hactive)
    rw [hT]
    rfl
  rw [heq] at hcall
  generalize ({ e with stack := .release (.timeline t) :: rest } : Engine).invalidateNow t = e₁ at *
  have hrelease := reaches_perform (e := e₁) hwithin.stack rfl
  have hdrop : ({ e₁ with stack := rest } : Engine).perform (.release (.timeline t)) =
      ({ e₁ with stack := rest } : Engine).dropHold t :=
    release_eq_dropHold (e := { e₁ with stack := rest }) (hholders ▸ hheld)
  rw [hdrop] at hrelease
  exact ⟨_, hcall.trans hrelease, rfl, (htold.trans_still (still_pop e₁ rest)).dropHold,
    steady_of_remembers hwithin.query, fun q => (hwithin.query q).registry⟩

-- The round of a query goes on.

def setRound (e : Engine) (q : QueryId) (round : Option (Round Target)) : Engine :=
  e.modifyQuery q fun query => { query with registry := { query.registry with round } }

theorem still_setRound (e : Engine) (q : QueryId) (round : Option (Round Target)) :
    Still e (e.setRound q round) := still_modifyQuery e q rfl rfl

theorem steady_setRound (e : Engine) (q : QueryId) (round : Option (Round Target)) :
    Steady e (e.setRound q round) := steady_modifyQuery e q rfl

theorem registry_setRound (hq : q < e.queries.length) (round : Option (Round Target)) :
    ((e.setRound q round).query q).registry = { (e.query q).registry with round } :=
  congrArg Query.registry (query_modifyQuery_self hq _)

theorem continueRounds_call {x : Target} {waiting : List Target}
    (h : (e.query q).registry.round = some ⟨revision, x :: waiting⟩) :
    e.continueRounds q =
      (e.setRound q (some ⟨revision, waiting⟩)).push [.call x revision, .release x, .rounds q] := by
  have hnext : (e.query q).registry.advance e.isAlive =
      (.call x revision, { (e.query q).registry with round := some ⟨revision, waiting⟩ }) := by
    simp only [Registry.advance, h]
  unfold continueRounds
  rw [hnext]
  exact congrArg (push · _) (modifyQuery_congr rfl)

theorem continueRounds_done (h : (e.query q).registry.round = some ⟨revision, []⟩)
    (hpending : (e.query q).registry.pending = none) :
    e.continueRounds q = e.setRound q none := by
  have hnext : (e.query q).registry.advance e.isAlive =
      (.done, { (e.query q).registry with round := none }) := by
    simp only [Registry.advance, h, hpending]
  unfold continueRounds
  rw [hnext]
  exact modifyQuery_congr rfl

theorem query_lt_of_round {round : Round Target} (h : (e.query q).registry.round = some round) :
    q < e.queries.length := by
  apply Nat.lt_of_not_le
  intro hle
  simp [query, List.getElem?_eq_none hle, default] at h

theorem round_calls (hs : e.stack = .rounds q :: rest) {x : Target} {waiting : List Target}
    (hround : (e.query q).registry.round = some ⟨revision, x :: waiting⟩) :
    ∃ e', Reaches e e' ∧ Still e e' ∧ Steady e e' ∧
      e'.stack = .call x revision :: .release x :: .rounds q :: rest ∧
      (e'.query q).registry = { (e.query q).registry with round := some ⟨revision, waiting⟩ } := by
  have hstep := reaches_perform hs rfl
  rw [show ({ e with stack := rest } : Engine).perform (.rounds q) = _ from
    continueRounds_call (e := { e with stack := rest }) hround] at hstep
  refine ⟨_, hstep, ?_, steady_setRound { e with stack := rest } q _, rfl,
    registry_setRound (e := { e with stack := rest }) (query_lt_of_round hround) _⟩
  exact (still_pop e rest).trans ((still_setRound _ q _).trans (still_push ..))

theorem round_ends (hs : e.stack = .rounds q :: rest)
    (hround : (e.query q).registry.round = some ⟨revision, []⟩)
    (hpending : (e.query q).registry.pending = none) :
    ∃ e', Reaches e e' ∧ Still e e' ∧ Steady e e' ∧ e'.stack = rest := by
  have hstep := reaches_perform hs rfl
  rw [show ({ e with stack := rest } : Engine).perform (.rounds q) = _ from
    continueRounds_done (e := { e with stack := rest }) hround hpending] at hstep
  exact ⟨_, hstep, (still_pop e rest).trans (still_setRound _ q none),
    steady_setRound { e with stack := rest } q none, rfl⟩

-- A round tells everybody who waits in it.
theorem rounds_end (h : Unwatched e) (hs : e.stack = .rounds q :: rest) {revision : Nat}
    {ts : List TimelineId}
    (hround : (e.query q).registry.round = some ⟨revision, ts.map .timeline⟩)
    (hpending : (e.query q).registry.pending = none) (hnodup : ts.Nodup)
    (hheld : ∀ t ∈ ts, (e.timeline t).phase.isActive = true ∧ 2 ≤ (e.timeline t).holders) :
    ∃ e', Reaches e e' ∧ e'.stack = rest ∧ Told (· ∈ ts) e e' ∧ Steady e e' := by
  induction ts generalizing e with
  | nil =>
      obtain ⟨e', hreaches, hstill, hsteady, hs'⟩ := round_ends hs hround hpending
      exact ⟨e', hreaches, hs', hstill.told.congr (by simp), hsteady⟩
  | cons t ts ih =>
      obtain ⟨hnotMem, hnodup⟩ := List.nodup_cons.mp hnodup
      obtain ⟨e₁, hreaches₁, hstill, hsteady₁, hs₁, hregistry₁⟩ := round_calls hs hround
      obtain ⟨hactive, hholders⟩ := hheld t List.mem_cons_self
      rw [← hstill.timeline] at hactive hholders
      obtain ⟨e₂, hreaches₂, hs₂, htold, hsteady₂, hregistry₂⟩ :=
        call_ends (hreaches₁.unwatched h) hs₁ hactive hholders
      have hreaches := hreaches₁.trans hreaches₂
      have hregistry := (hregistry₂ q).trans hregistry₁
      obtain ⟨e₃, hreaches₃, hs₃, htold₃, hsteady₃⟩ := ih (hreaches.unwatched h) hs₂
        (by rw [hregistry]) (by rw [hregistry, ← hpending]) hnodup fun t' hmem => by
          have hne : t' ≠ t := by
            rintro rfl
            exact hnotMem hmem
          rw [(htold.others t' hne).timeline, hstill.timeline]
          exact hheld t' (List.mem_cons_of_mem t hmem)
      refine ⟨e₃, hreaches.trans hreaches₃, hs₃, ?_, (hsteady₁.trans hsteady₂).trans hsteady₃⟩
      refine ((hstill.trans_told htold).trans htold₃ ?_).congr fun t' => List.mem_cons.symm
      rintro t' rfl
      exact hnotMem

-- Who listens to a query, if nobody from outside does.

omit [Patterns] in
theorem exists_timelines {l : List (SubscriptionId × Target)}
    (h : ∀ s ∈ l, ∃ t, s.2 = .timeline t) :
    ∃ ts : List TimelineId, l.map Prod.snd = ts.map .timeline := by
  induction l with
  | nil => exact ⟨[], rfl⟩
  | cons s l ih =>
      obtain ⟨ts, hts⟩ := ih fun s' hmem => h s' (List.mem_cons_of_mem s hmem)
      obtain ⟨t, ht⟩ := h s List.mem_cons_self
      exact ⟨t :: ts, by rw [List.map_cons, List.map_cons, hts, ht]⟩

theorem Unwatched.subscriber (h : Unwatched e) {s : SubscriptionId × Target}
    (hmem : s ∈ e.subscriptions q) :
    ∃ t, s.2 = .timeline t ∧ (e.timeline t).subscription = some (q, s.1) := by
  obtain ⟨id, target⟩ := s
  cases target with
  | observer o => exact absurd rfl ((h.unobserved o).subscriptions q _ hmem)
  | timeline t => exact ⟨t, rfl, h.accounted.owned q id t hmem⟩

theorem Unwatched.subscribers (h : Unwatched e) (q : QueryId) :
    ∃ ts : List TimelineId, (e.subscriptions q).map Prod.snd = ts.map .timeline ∧ ts.Nodup ∧
      ∀ t, t ∈ ts ↔ (e.timeline t).activated = some q := by
  obtain ⟨ts, hts⟩ := exists_timelines fun s hmem => (h.subscriber hmem).imp fun _ => And.left
  have hmem (t : TimelineId) : t ∈ ts ↔ ∃ s ∈ e.subscriptions q, s.2 = .timeline t := by
    rw [← List.mem_map, hts]
    simp
  refine ⟨ts, hts, ?_, fun t => ?_⟩
  · have hdistinct : ((e.subscriptions q).map Prod.snd).Pairwise (· ≠ ·) := by
      rw [List.pairwise_map]
      refine (h.wired.orderly q).distinct.imp_of_mem fun hs hs' hne heq => ?_
      obtain ⟨t, ht, hsub⟩ := h.subscriber hs
      obtain ⟨t', ht', hsub'⟩ := h.subscriber hs'
      obtain rfl : t = t' := Target.timeline.inj (ht.symm.trans (heq.trans ht'))
      exact hne (Prod.mk.inj (Option.some.inj (hsub.symm.trans hsub'))).2
    rw [hts, List.pairwise_map] at hdistinct
    exact hdistinct.imp fun hne heq => hne (congrArg Target.timeline heq)
  · rw [hmem, h.accounted.paired t]
    constructor
    · rintro ⟨s, hs, ht⟩
      obtain ⟨t', ht', hsub⟩ := h.subscriber hs
      obtain rfl : t = t' := Target.timeline.inj (ht.symm.trans ht')
      rw [hsub]
      rfl
    · intro hactivated
      obtain ⟨⟨q', id⟩, hsub, rfl⟩ := Option.map_eq_some_iff.mp hactivated
      exact ⟨_, ((h.wired.bound t).subscribed q' id hsub).2.2, rfl⟩

theorem Unwatched.alive (h : Unwatched e) {s : SubscriptionId × Target}
    (hmem : s ∈ e.subscriptions q) : e.isAlive s.2 = true := by
  obtain ⟨t, ht, hsub⟩ := h.subscriber hmem
  rw [ht]
  exact (h.wired.alive hsub).1

theorem Unwatched.held (h : Unwatched e) (hactivated : (e.timeline t).activated = some q) :
    (e.timeline t).phase.isActive = true ∧ 0 < (e.timeline t).holders := by
  rw [h.accounted.paired t] at hactivated
  obtain ⟨⟨q', id⟩, hsub, -⟩ := Option.map_eq_some_iff.mp hactivated
  have hactive := ((h.wired.bound t).subscribed q' id hsub).1
  exact ⟨hactive, (h.wired.bound t).held hactive⟩

-- An inactive timeline has no activation.
theorem Unwatched.activated_of_inactive (h : Unwatched e)
    (hinactive : (e.timeline t).phase = .inactive) : (e.timeline t).activated = none := by
  cases hactivated : (e.timeline t).activated with
  | none => rfl
  | some q =>
      have hactive := (h.held hactivated).1
      rw [hinactive] at hactive
      cases hactive

theorem timeline_retainAll (ht : t < e.timelines.length) (ts : List TimelineId) :
    (e.retainAll (ts.map .timeline)).timeline t =
      { e.timeline t with holders := (e.timeline t).holders + ts.count t } := by
  induction ts generalizing e with
  | nil => rfl
  | cons t' ts ih =>
      have hsize : t < (e.retain (.timeline t')).timelines.length := by
        simpa [retain, modifyTimeline] using ht
      change ((e.retain (.timeline t')).retainAll (ts.map .timeline)).timeline t = _
      rw [ih hsize]
      by_cases heq : t' = t
      · subst heq
        have hT : (e.retain (.timeline t')).timeline t' =
            { e.timeline t' with holders := (e.timeline t').holders + 1 } :=
          timeline_modifyTimeline_self ht _
        rw [hT, List.count_cons_self, Nat.add_comm (ts.count t') 1, ← Nat.add_assoc]
      · have hT : (e.retain (.timeline t')).timeline t = e.timeline t :=
          timeline_modifyTimeline_ne (Ne.symm heq) _
        rw [hT, List.count_cons_of_ne heq]

theorem tasks_retainAll (e : Engine) (targets : List Target) :
    (e.retainAll targets).tasks = e.tasks ∧ (e.retainAll targets).operations = e.operations := by
  induction targets generalizing e with
  | nil => exact ⟨rfl, rfl⟩
  | cons target targets ih =>
      have hretain : (e.retain target).tasks = e.tasks ∧
          (e.retain target).operations = e.operations := by
        cases target <;> exact ⟨rfl, rfl⟩
      exact ⟨(ih _).1.trans hretain.1, (ih _).2.trans hretain.2⟩

-- Those who are to be told of something are held meanwhile.
structure Retains (ts : List TimelineId) (e e' : Engine) : Prop where
  timeline : ∀ t, ∃ holders, e'.timeline t = { e.timeline t with holders }
  others : ∀ t, t ∉ ts → e'.timeline t = e.timeline t
  held : ∀ t ∈ ts, t < e.timelines.length → (e.timeline t).holders < (e'.timeline t).holders
  tasks : e'.tasks = e.tasks
  operations : e'.operations = e.operations
  unchanged : Unchanged e e'

theorem retains_retainAll (e : Engine) (ts : List TimelineId) :
    Retains ts e (e.retainAll (ts.map .timeline)) := by
  have hqueries := (frame_retainAll e (ts.map .timeline)).1
  have hcalm : Calm Nothing e (e.retainAll (ts.map .timeline)) := calm_retainAll e _
  have hsize := hcalm.size
  refine ⟨fun t => ?_, fun t ht => ?_, fun t ht hlt => ?_, (tasks_retainAll e _).1,
    (tasks_retainAll e _).2, unchanged_of_queries hqueries⟩
  · by_cases hlt : t < e.timelines.length
    · exact ⟨_, timeline_retainAll hlt ts⟩
    · have hle := Nat.le_of_not_lt hlt
      exact ⟨(e.timeline t).holders, by rw [timeline_of_le hle, timeline_of_le (hsize ▸ hle)]⟩
  · by_cases hlt : t < e.timelines.length
    · rw [timeline_retainAll hlt, List.count_eq_zero.mpr ht]
      rfl
    · have hle := Nat.le_of_not_lt hlt
      rw [timeline_of_le hle, timeline_of_le (hsize ▸ hle)]
  · have hcount := List.count_pos_iff.mpr ht
    rw [timeline_retainAll hlt]
    exact Nat.lt_add_of_pos_right hcount

theorem Still.trans_retains {ts : List TimelineId} (h : Still e e') (h' : Retains ts e' e'') :
    Retains ts e e'' where
  timeline t := h.timeline t ▸ h'.timeline t
  others t ht := (h'.others t ht).trans (h.timeline t)
  held t ht hlt := h.timeline t ▸ h'.held t ht (by rwa [h.timelines])
  tasks := h'.tasks.trans h.tasks
  operations := h'.operations.trans h.operations
  unchanged := h.unchanged.trans h'.unchanged

theorem Retains.trans_still {ts : List TimelineId} (h : Retains ts e e') (h' : Still e' e'') :
    Retains ts e e'' where
  timeline t := h'.timeline t ▸ h.timeline t
  others t ht := (h'.timeline t).trans (h.others t ht)
  held t ht hlt := h'.timeline t ▸ h.held t ht hlt
  tasks := h'.tasks.trans h.tasks
  operations := h'.operations.trans h.operations
  unchanged := h.unchanged.trans h'.unchanged

theorem Retains.trans_told {ts : List TimelineId} (h : Retains ts e e')
    (h' : Told (· ∈ ts) e' e'') : Told (· ∈ ts) e e'' where
  told t ht := by
    obtain ⟨holders, hT⟩ := h.timeline t
    have hjobs := jobsOf_congr h.tasks t
    have hrenewed := h'.told t ht
    refine ⟨?_, hrenewed.phase, hrenewed.items, hrenewed.unread, ?_⟩
    · rw [hrenewed.generation, hT]
    · rw [hrenewed.jobs, hjobs]
  others t ht := (untouched_of_tasks (h.others t ht) h.tasks).trans (h'.others t ht)
  query t := by
    obtain ⟨holders, hT⟩ := h.timeline t
    rw [h'.query, hT]
  activated t := by
    obtain ⟨holders, hT⟩ := h.timeline t
    rw [h'.activated, hT]
  operations := h'.operations.trans h.operations
  unchanged := h.unchanged.trans h'.unchanged

-- A round begins for those who listen to a query.

omit [Patterns] in
theorem startRound_of_alive {r : Registry Target} {alive : Target → Bool} (revision : Nat)
    (halive : ∀ s ∈ r.subscriptions, alive s.2 = true) :
    r.startRound alive revision =
      { r with round := some ⟨revision, r.subscriptions.map Prod.snd⟩ } := by
  rw [Registry.startRound, List.filter_eq_self.mpr halive]

theorem announce_eq (hq : q < e.queries.length) (hround : (e.query q).registry.round = none)
    (halive : ∀ s ∈ e.subscriptions q, e.isAlive s.2 = true) {ts : List TimelineId}
    (hts : (e.subscriptions q).map Prod.snd = ts.map .timeline) :
    e.announce q revision =
      ((e.setRound q (some ⟨revision, ts.map .timeline⟩)).retainAll (ts.map .timeline)).push
        [.rounds q] := by
  have hrequest : (e.query q).registry.request e.isAlive revision =
      { (e.query q).registry with round := some ⟨revision, ts.map .timeline⟩ } := by
    rw [Registry.request_of_none hround, startRound_of_alive revision halive, ← hts]
    rfl
  have hregistry : e.modifyQuery q (fun query =>
      { query with registry := query.registry.request e.isAlive revision }) =
        e.setRound q (some ⟨revision, ts.map .timeline⟩) :=
    modifyQuery_congr (by rw [hrequest])
  unfold announce
  dsimp only
  rw [hregistry, registry_setRound hq]
  simp only [Registry.isNotifying, hround]
  rfl

theorem announce_begins (hs : e.stack = .announce q revision :: rest) (hq : q < e.queries.length)
    (hround : (e.query q).registry.round = none)
    (halive : ∀ s ∈ e.subscriptions q, e.isAlive s.2 = true) {ts : List TimelineId}
    (hts : (e.subscriptions q).map Prod.snd = ts.map .timeline) :
    ∃ e', Reaches e e' ∧ e'.stack = .rounds q :: rest ∧ Retains ts e e' ∧ Steady e e' ∧
      (e'.query q).registry =
        { (e.query q).registry with round := some ⟨revision, ts.map .timeline⟩ } := by
  have hbegins := reaches_perform hs rfl
  rw [show ({ e with stack := rest } : Engine).perform (.announce q revision) = _ from
    announce_eq (e := { e with stack := rest }) hq hround halive hts] at hbegins
  have hstill := (still_pop e rest).trans (still_setRound _ q (some ⟨revision, ts.map .timeline⟩))
  have hretains := hstill.trans_retains (retains_retainAll _ ts)
  have hregistry := registry_setRound (e := { e with stack := rest }) hq
    (some ⟨revision, ts.map .timeline⟩)
  obtain ⟨hqueries, hstack⟩ := frame_retainAll
    (({ e with stack := rest } : Engine).setRound q (some ⟨revision, ts.map .timeline⟩))
    (ts.map .timeline)
  refine ⟨_, hbegins, congrArg (Frame.rounds q :: ·) hstack, ?_, ?_, ?_⟩
  · exact hretains.trans_still (still_push ..)
  · exact (steady_setRound { e with stack := rest } q _).trans (steady_of_queries hqueries)
  · refine Eq.trans ?_ hregistry
    exact congrArg (fun queries : List (Query Target) => (queries[q]?.getD default).registry)
      hqueries

-- A notification tells all active timelines that use the query.
theorem announce_ends (h : Unwatched e)
    (hs : e.stack = .announce q revision :: rest) (hq : q < e.queries.length)
    (hquiet : .rounds q ∉ rest) :
    ∃ e', Reaches e e' ∧ e'.stack = rest ∧
      Told (fun t => (e.timeline t).activated = some q) e e' ∧ Steady e e' := by
  obtain ⟨ts, hts, hnodup, hmem⟩ := h.subscribers q
  have hround : (e.query q).registry.round = none := by
    cases hround : (e.query q).registry.round with
    | none => rfl
    | some round =>
        have hring := h.wired.ringing q (by rw [hround]; rfl)
        rw [hs] at hring
        rcases List.mem_cons.mp hring with heq | hring
        · cases heq
        · exact absurd hring hquiet
  have hpending : (e.query q).registry.pending = none := by
    cases hpending : (e.query q).registry.pending with
    | none => rfl
    | some revision =>
        have hsome := (h.wired.orderly q).pending (by rw [hpending]; rfl)
        rw [hround] at hsome
        cases hsome
  obtain ⟨e₁, hreaches₁, hs₁, hretains, hsteady₁, hregistry⟩ :=
    announce_begins hs hq hround (fun _ => h.alive) hts
  have hround₁ : (e₁.query q).registry.round = some ⟨revision, ts.map .timeline⟩ := by
    rw [hregistry]
  obtain ⟨e', hreaches', hs', htold, hsteady⟩ := rounds_end (hreaches₁.unwatched h) hs₁ hround₁
    (by rw [hregistry, ← hpending]) hnodup fun t ht => by
      obtain ⟨hactive, hpos⟩ := h.held ((hmem t).mp ht)
      obtain ⟨holders, hT⟩ := hretains.timeline t
      have hlt := hretains.held t ht (lt_of_active hactive)
      refine ⟨?_, by omega⟩
      rw [hT]
      exact hactive
  exact ⟨e', hreaches₁.trans hreaches', hs', (hretains.trans_told htold).congr hmem,
    hsteady₁.trans hsteady⟩

-- A query that is activated, or given back, has its users told.

theorem Unwatched.unused (h : Unwatched e) (hnobody : e.listenerCount q = 0) :
    (e.timeline t).activated ≠ some q := by
  intro hactivated
  rw [h.accounted.paired t] at hactivated
  obtain ⟨⟨q', id⟩, hsub, rfl⟩ := Option.map_eq_some_iff.mp hactivated
  have hmem := ((h.wired.bound t).subscribed q' id hsub).2.2
  have hnone := List.filter_eq_nil_iff.mp (List.eq_nil_of_length_eq_zero hnobody) _ hmem
  exact hnone (h.alive hmem)

theorem toggled_ends (h : Unwatched (e.toggled q)) (hq : q < e.queries.length)
    (hquiet : .rounds q ∉ e.stack) :
    ∃ e', Reaches (e.toggled q) e' ∧ e'.stack = e.stack ∧
      Told (fun t => (e.timeline t).activated = some q) e e' ∧ Steady e e' := by
  unfold toggled at h ⊢
  split at h
  · rename_i hnobody
    rw [if_pos hnobody]
    refine ⟨e, .refl e, rfl, (still_push e []).told.congr fun t => ?_, .refl e⟩
    exact ⟨False.elim, h.unused hnobody⟩
  · rename_i hsome
    rw [if_neg hsome]
    obtain ⟨e', hreaches, hs', htold, hsteady⟩ := announce_ends h rfl hq hquiet
    exact ⟨e', hreaches, hs', (still_push e _).trans_told htold, hsteady⟩

-- A query has another number of activations.
def Recounted (q : QueryId) (count : Nat) (e e' : Engine) : Prop :=
  ∀ q', (e'.query q').activations = if q' = q then count else (e.query q').activations

theorem Recounted.trans {count : Nat} (h : Recounted q count e e') (h' : Steady e' e'') :
    Recounted q count e e'' :=
  fun q' => (h' q').trans (h q')

theorem recounted_modifyQuery (hq : q < e.queries.length) (count : Nat → Nat) :
    Recounted q (count (e.query q).activations) e
      (e.modifyQuery q fun query => { query with activations := count query.activations }) := by
  intro q'
  by_cases hne : q' = q
  · subst hne
    rw [if_pos rfl, query_modifyQuery_self hq]
  · rw [if_neg hne, query_modifyQuery_ne hne]

-- How the number of activations changes if a query is toggled.
def Frame.recount : Frame → Nat → Nat
  | .activate _ => (· + 1)
  | .deactivate _ => (· - 1)
  | _ => id

theorem toggle_ends (h : Unwatched e) (hs : e.stack = f :: rest)
    (hf : f = .activate q ∨ f = .deactivate q ∧ 0 < (e.query q).activations)
    (hquiet : .rounds q ∉ rest) :
    ∃ e', Reaches e e' ∧ e'.stack = rest ∧
      Told (fun t => (e.timeline t).activated = some q) e e' ∧
      Recounted q (f.recount (e.query q).activations) e e' := by
  have hq : q < e.queries.length := by
    refine h.accounted.ranged f (hs ▸ List.mem_cons_self) q ?_
    rcases hf with rfl | ⟨rfl, -⟩ <;> simp [Frame.weight]
  have hperform : ({ e with stack := rest } : Engine).perform f =
      (({ e with stack := rest } : Engine).modifyQuery q fun query =>
        { query with activations := f.recount query.activations }).toggled q := by
    rcases hf with rfl | ⟨rfl, hpos⟩
    · rfl
    · have hactive : (({ e with stack := rest } : Engine).query q).isActive = true :=
        decide_eq_true hpos
      change ({ e with stack := rest } : Engine).removeActivation q = _
      rw [removeActivation, if_pos hactive]
      rfl
  have hstep := reaches_perform hs (by rcases hf with rfl | ⟨rfl, -⟩ <;> rfl)
  have hstill := (still_pop e rest).trans (still_modifyQuery _ q (g := fun query =>
    { query with activations := f.recount query.activations }) rfl rfl)
  have hcount := recounted_modifyQuery (e := { e with stack := rest }) hq f.recount
  rw [hperform] at hstep
  obtain ⟨e', hreaches, hs', htold, hsteady⟩ := toggled_ends (hstep.unwatched h)
    (by simpa [modifyQuery] using hq) hquiet
  exact ⟨e', hstep.trans hreaches, hs', hstill.trans_told htold, hcount.trans hsteady⟩

-- Where all activations are those of timelines, what is to be given back is there.
theorem Secluded.deactivates (h : Secluded e) (hs : e.stack = .deactivate q :: rest) :
    0 < (e.query q).activations := by
  have hbase := h.accounted
  rw [hs] at hbase
  exact activations_pos hbase hs (Int.le_of_eq (h.balanced q).symm)

end FilteredFeed.Engine
