import FilteredFeed.Pattern.Builtin
import FilteredFeed.Proofs.Engine.Leaves
import FilteredFeed.Proofs.Engine.QueryEffects

namespace FilteredFeed.Engine

open FilteredFeed.Feed FilteredFeed.Filter FilteredFeed.Listener FilteredFeed.Timeline

section

variable [Patterns]
variable {e e' e₁ e₂ e₃ e₄ : Engine} {t : TimelineId} {q : QueryId} {o : OperationId}
variable {cause : StorageError} {moves : List Move}

-- Without a query, an activation asks for the first items at once.

theorem after_startActivation_none (hw : Wired e) (hrest : e.stack = [])
    (halive : e.isAlive (.timeline t) = true) (hquery : (e.timeline t).query = none)
    (hinactive : (e.timeline t).phase = .inactive) :
    ∃ e₁, Launched e e₁ t ∧ e₁.stack = [] ∧ e.after (.startActivation t true) =
      e₁.setStatus e.operations.length (.waiting (refill (e₁.timeline t))) := by
  have ht := isAlive_lt halive
  have hT := timeline_addOperation ht .activation
  have hsize : t < (e.addOperation t .activation).2.timelines.length := by
    simpa [addOperation, retain, modifyTimeline] using ht
  have hcurrent : ((e.addOperation t .activation).2.launch t).isStale t = false := by
    rw [isStale_launch hsize]
    refine isStale_of_query_none (hw.quiet (links_addOperation ..)) ?_
    rw [hT, hquery]
  have hg : ((((e.addOperation t .activation).2.launch t).timeline t).generation) =
      (e.timeline t).generation + 1 := by
    rw [timeline_launch hsize, hT]
  refine ⟨_, launched_launch ht [], hrest, ?_⟩
  rcases startActivation_cases e t true with ⟨-, -, heq⟩ | ⟨hnot, -⟩
  · refine heq.trans ?_
    unfold launched
    rw [hT]
    simp only [hquery]
    rw [prepare_eq, prepared_of_current hcurrent, if_neg (not_not_intro hg), ← hg]
    rfl
  · simp [hinactive] at hnot

theorem attempt_ends_none (h : Unwatched e) (hrest : e.stack = [])
    (halive : e.isAlive (.timeline t) = true) (hquery : (e.timeline t).query = none)
    (hinactive : (e.timeline t).phase = .inactive) :
    ∃ e', e.Ends (.startActivation t true) e' ∧ Attempted e e' t := by
  obtain ⟨e₁, hlaunched, hs₁, hafter⟩ :=
    after_startActivation_none h.wired hrest halive hquery hinactive
  obtain ⟨pump, hT⟩ := hlaunched.timeline
  have hallows : e.allows (.startActivation t true) = true :=
    Bool.and_eq_true_iff.mpr ⟨by rw [hrest]; rfl, halive⟩
  have hothers (t' : TimelineId) (hne : t' ≠ t) : e₁.timeline t' = e.timeline t' :=
    (hlaunched.alone.others t' hne).timeline
  have hprimed : e.primed t = e.timeline t :=
    primed_of_current (isStale_of_query_none h.wired hquery)
  have hactivated : (e.timeline t).activated = none := h.activated_of_inactive hinactive
  refine ⟨e₁.setStatus e.operations.length (.waiting (refill (e₁.timeline t))),
    ⟨hallows, hafter ▸ .refl _, hs₁⟩, ⟨pump, (e.timeline t).subscription,
    (e.timeline t).events, ?_⟩, ?_, hlaunched.jobs, ?_, ?_, ?_, hlaunched.alone.unchanged, ?_⟩
  · rw [hprimed, hquery, ← hactivated]
    exact hT
  · change e₁.operations.modify _ _ = _
    rw [hlaunched.operations, modify_concat]
    rfl
  · intro q
    rw [hquery]
    exact hlaunched.steady q
  · intro t'
    by_cases hne : t' = t
    · subst hne
      change (e₁.timeline t').query = _
      rw [hT]
    · exact congrArg Timeline.query (hothers t' hne)
  · intro t' hne
    exact congrArg Timeline.activated (hothers t' hne)
  · rw [hquery]
    have halone := hlaunched.alone.trans
      (alone_setStatus e₁ t e.operations.length (.waiting (refill (e₁.timeline t))))
    exact ⟨fun u q _ => nofun, fun u hne _ => halone.others u fun heq => hne (heq ▸ rfl)⟩

theorem attempt_ends (h : Unwatched e) (hrest : e.stack = [])
    (halive : e.isAlive (.timeline t) = true) (hinactive : (e.timeline t).phase = .inactive) :
    ∃ e', e.Ends (.startActivation t true) e' ∧ Attempted e e' t := by
  cases hquery : (e.timeline t).query with
  | none => exact attempt_ends_none h hrest halive hquery hinactive
  | some q => exact attempt_ends_some h hrest halive hquery hinactive

-- Storage fails an activation.

theorem steady_teardown (e : Engine) (t : TimelineId) : Steady e (e.teardown t).2 := by
  have hdrop : Steady (e.abortWork t) (e.endWork t) := by
    unfold endWork
    cases (e.timeline t).subscription with
    | none => exact .refl _
    | some s => exact steady_modifyQuery _ s.1 rfl
  rw [teardown_eq]
  exact (steady_of_queries (background_abortWork e t).queries).trans hdrop

-- The activation of a query is given back, if there is one.
theorem deactivations_end {query : Option QueryId} {rest : List Frame} (h : Unwatched e)
    (hs : e.stack = deactivations query ++ rest)
    (hpos : ∀ q, query = some q → 0 < (e.query q).activations) (hquiet : ∀ q, .rounds q ∉ rest) :
    ∃ e', Reaches e e' ∧ e'.stack = rest ∧
      Told (fun t => ∃ q ∈ query.toList, (e.timeline t).activated = some q) e e' ∧
      ∀ q, (e'.query q).activations =
        (e.query q).activations - if query = some q then 1 else 0 := by
  cases query with
  | none =>
      refine ⟨e, .refl e, hs, (still_push e []).told.congr fun t => ?_, fun q => rfl⟩
      simp
  | some q =>
      obtain ⟨e', hreaches, hs', htold, hcount⟩ :=
        toggle_ends h hs (.inr ⟨rfl, hpos q rfl⟩) (hquiet q)
      refine ⟨e', hreaches, hs', htold.congr fun t => by simp, fun q' => ?_⟩
      rw [hcount, Frame.recount]
      by_cases hne : q' = q
      · rw [if_pos hne, if_pos (congrArg some hne.symm), hne]
      · rw [if_neg hne, if_neg fun heq => hne (Option.some.inj heq).symm, Nat.sub_zero]

theorem complete_failed {r : FetchRequest}
    (hop : e.operations[o]? = some ⟨t, .activation, .waiting r⟩)
    (hg : (e.timeline t).generation = r.generation) (cause : StorageError) :
    e.complete o (.error cause) =
      ((e.setStatus o .running).teardown t).2.push
        (deactivations (e.timeline t).activated ++ [.finish o (.error (.fetch cause))]) := by
  have hg' : ((e.setStatus o .running).timeline t).generation = r.generation := hg
  unfold complete completeActivation
  simp only [hop]
  rw [if_neg (not_not_intro hg'), teardown_eq]
  rfl

-- The end of a call closes its operation, which lets its timeline go.
theorem finish_ends {kind : OperationKind} {status : Status} {rest : List Frame}
    {result : Except TimelineError Outcome} (hs : e.stack = .finish o result :: rest)
    (hop : e.operations[o]? = some ⟨t, kind, status⟩) (hheld : 2 ≤ (e.timeline t).holders) :
    ∃ e', Reaches e e' ∧ e'.stack = rest ∧
      e'.timeline t = { e.timeline t with holders := (e.timeline t).holders - 1 } ∧
      e'.operations =
        e.operations.modify o (fun operation => { operation with status := .done result }) ∧
      e'.queries = e.queries ∧ Alone t e e' := by
  have hstep := reaches_perform hs rfl
  rw [show ({ e with stack := rest } : Engine).perform (.finish o result) =
    (({ e with stack := rest } : Engine).setStatus o (.done result)).dropHold t from
      (close_of_waiting (e := { e with stack := rest }) hop).trans
        (release_eq_dropHold (e := ({ e with stack := rest } : Engine).setStatus o _) hheld)]
    at hstep
  have ht : t < e.timelines.length := by
    apply Nat.lt_of_not_le
    intro hle
    rw [timeline_of_le hle] at hheld
    exact absurd hheld (show ¬2 ≤ 1 by decide)
  refine ⟨_, hstep, rfl, ?_, rfl, rfl, ?_⟩
  · exact timeline_modifyTimeline_self (e := ({ e with stack := rest } : Engine).setStatus o _) ht _
  · exact (((still_pop e rest).alone t).trans (alone_setStatus ..)).trans
      (alone_modifyTimeline _ t _)

-- Storage has failed an activation. The timeline is stopped, but its query has not been told of
-- it, and the operation has not ended yet.
structure Failing (e e' : Engine) (t : TimelineId) (o : OperationId) (cause : StorageError) :
    Prop where
  timeline : e'.timeline t = stopped (e.timeline t)
  operations : e'.operations =
    e.operations.modify o fun operation => { operation with status := .running }
  stack : e'.stack =
    deactivations (e.timeline t).activated ++ [.finish o (.error (.fetch cause))]
  steady : Steady e e'
  alone : Alone t e e'

theorem after_failure {r : FetchRequest} (hm : Manned e t) (hrest : e.stack = [])
    (ht : t < e.timelines.length) (hop : e.operations[o]? = some ⟨t, .activation, .waiting r⟩)
    (hg : (e.timeline t).generation = r.generation) (cause : StorageError) :
    Failing e (e.after (.answer (.operation o) (.error cause))) t o cause := by
  have hafter : e.after (.answer (.operation o) (.error cause)) = _ :=
    complete_failed hop hg cause
  have hapart := apart_teardown (e.setStatus o .running) t
  have hmanned : Manned (e.setStatus o .running) t :=
    hm.idle (d := none) (idle_of_same rfl rfl) nofun
  rw [hafter]
  refine ⟨?_, hapart.operations, ?_, steady_teardown (e.setStatus o .running) t, ?_⟩
  · exact timeline_teardown (e := e.setStatus o .running) ht
  · refine (congrArg (_ ++ ·) (hapart.stack.trans hrest)).trans ?_
    rw [List.append_nil]
  · exact ((alone_setStatus e t o .running).trans (alone_teardown hmanned)).trans
      ((still_push _ _).alone t)

-- An activation was failed by storage, and its timeline is stopped.
structure Failed (e e' : Engine) (t : TimelineId) (o : OperationId) (cause : StorageError) :
    Prop where
  timeline : e'.timeline t =
    stopped { e.timeline t with holders := (e.timeline t).holders - 1 }
  operations : e'.operations = e.operations.modify o fun operation =>
    { operation with status := .done (.error (.fetch cause)) }
  activations : ∀ q, (e'.query q).activations =
    (e.query q).activations - if (e.timeline t).activated = some q then 1 else 0
  query : ∀ t', (e'.timeline t').query = (e.timeline t').query
  activated : ∀ t', t' ≠ t → (e'.timeline t').activated = (e.timeline t').activated
  unchanged : Unchanged e e'
  spreads : Spreads e e' (e.timeline t).activated.toList (some t)

theorem fail_ends {r : FetchRequest} (h : Unwatched e) (hrest : e.stack = [])
    (ht : t < e.timelines.length) (hop : e.operations[o]? = some ⟨t, .activation, .waiting r⟩)
    (hg : (e.timeline t).generation = r.generation) (hheld : 2 ≤ (e.timeline t).holders)
    (hpos : ∀ q, (e.timeline t).activated = some q → 0 < (e.query q).activations)
    (cause : StorageError) :
    ∃ e', e.Ends (.answer (.operation o) (.error cause)) e' ∧ Failed e e' t o cause := by
  have hallows : e.allows (.answer (.operation o) (.error cause)) = true := by
    simp [allows, hrest, awaits, hop]
  have h₁ := h.after hallows fun q heq => by cases heq
  have hfailing := after_failure (h.staffed t).toManned hrest ht hop hg cause
  generalize he₁ : e.after (.answer (.operation o) (.error cause)) = e₁ at h₁ hfailing
  obtain ⟨e₂, hreaches₂, hs₂, htold, hcount⟩ := deactivations_end h₁ hfailing.stack
    (fun q hq => hfailing.steady q ▸ hpos q hq) (by simp)
  -- the timeline itself does not listen any more
  have hself := htold.others t <| by
    rw [hfailing.timeline]
    rintro ⟨q, -, hactivated⟩
    cases hactivated
  have hT₂ := hself.timeline.trans hfailing.timeline
  have hop₂ : e₂.operations[o]? = some ⟨t, .activation, .running⟩ := by
    rw [htold.operations, hfailing.operations, List.getElem?_modify_eq, hop]
    rfl
  have hheld₂ : 2 ≤ (e₂.timeline t).holders := by
    rw [hT₂]
    exact hheld
  obtain ⟨e', hreaches', hs', hT', hoperations', hqueries', halone'⟩ :=
    finish_ends hs₂ hop₂ hheld₂
  have hreaches := hreaches₂.trans hreaches'
  have hothers (t' : TimelineId) (hne : t' ≠ t) : e'.timeline t' = e₂.timeline t' ∧
      e₁.timeline t' = e.timeline t' :=
    ⟨(halone'.others t' hne).timeline, (hfailing.alone.others t' hne).timeline⟩
  obtain ⟨hunchanged, hspreads⟩ := htold.spreads_alone h hrest (hreaches.unwatched h₁) hs'
    hfailing.alone halone' fun _ => Iff.rfl
  refine ⟨e', ⟨hallows, he₁ ▸ hreaches, hs'⟩, ⟨?_, ?_, ?_, ?_, ?_, hunchanged, hspreads⟩⟩
  · rw [hT', hT₂]
    rfl
  · rw [hoperations', htold.operations, hfailing.operations, List.modify_modify_eq]
    rfl
  · intro q
    rw [steady_of_queries hqueries' q, hcount, hfailing.steady]
  · intro t'
    by_cases hne : t' = t
    · subst hne
      rw [hT', hT₂]
      rfl
    · rw [(hothers t' hne).1, htold.query, (hothers t' hne).2]
  · intro t' hne
    rw [(hothers t' hne).1, htold.activated, (hothers t' hne).2]

-- What is left of a failed activation.

theorem Ends.unwatched {m : Move} (hends : e.Ends m e') (h : Unwatched e)
    (hlisten : ∀ q, m ≠ .listen q) : Unwatched e' :=
  hends.2.1.unwatched (h.after hends.1 hlisten)

theorem Reaches.lt (h : Reaches e e') (ht : t < e.timelines.length) : t < e'.timelines.length := by
  induction h with
  | refl => exact ht
  | step hallows _ ih => exact ih (lt_after ht hallows)

theorem Ends.lt {m : Move} (hends : e.Ends m e') (ht : t < e.timelines.length) :
    t < e'.timelines.length :=
  hends.2.1.lt (lt_after ht hends.1)

theorem Attempted.fail_ends (hattempted : Attempted e e₁ t) (h₁ : Unwatched e₁)
    (hrest : e₁.stack = []) (halive : e.isAlive (.timeline t) = true) (cause : StorageError) :
    ∃ e', e₁.Ends (.answer (.operation e.operations.length) (.error cause)) e' ∧
      Failed e₁ e' t e.operations.length cause := by
  obtain ⟨pump, subscription, events, hT⟩ := hattempted.timeline
  refine Engine.fail_ends h₁ hrest (lt_of_active (by rw [hT]; rfl))
    (by rw [hattempted.operations, List.getElem?_concat_length]) rfl ?_ (fun q hq => ?_) cause
  · rw [hT]
    exact Nat.succ_le_succ (holders_pos halive)
  · rw [hT] at hq
    rw [hattempted.activations, if_pos hq]
    exact Nat.succ_pos _

-- A failed activation has left a timeline as it was, but for a change of its query that it has
-- applied.
structure RolledBack (e e' : Engine) (t : TimelineId) (cause : StorageError) : Prop where
  operations : e'.operations = e.operations ++ [⟨t, .activation, .done (.error (.fetch cause))⟩]
  phase : (e'.timeline t).phase = .inactive
  query : (e'.timeline t).query = (e.timeline t).query
  holders : (e'.timeline t).holders = (e.timeline t).holders
  pump : (e'.timeline t).pump = none
  refetch : (e'.timeline t).refetch = none
  subscription : (e'.timeline t).subscription = none
  activated : (e'.timeline t).activated = none
  work : ∀ k job, e'.work k = some job → job.timeline ≠ t
  kept : e.isStale t = false →
    (e'.timeline t).buffer = (e.timeline t).buffer ∧
      (e'.timeline t).unread = (e.timeline t).unread ∧
      (e'.timeline t).compiled = (e.timeline t).compiled ∧
      (e'.timeline t).compiledRevision = (e.timeline t).compiledRevision
  refitted : e.isStale t = true →
    (e'.timeline t).buffer.items = [] ∧ (e'.timeline t).unread = 0 ∧
      (e'.timeline t).compiled = (e.currentFilter t).1

theorem Attempted.timeline_failed (hattempted : Attempted e e₁ t)
    (hfailed : Failed e₁ e' t o cause) :
    ∃ events, e'.timeline t =
      { e.primed t with
        holders := (e.timeline t).holders
        phase := .inactive
        generation := (e.timeline t).generation + 2
        epoch := (e.primed t).epoch + 1
        pump := none
        refetch := none
        hasRuntime := true
        subscription := none
        activated := none
        events } := by
  obtain ⟨pump, subscription, events, hT⟩ := hattempted.timeline
  refine ⟨events, ?_⟩
  rw [hfailed.timeline, hT]
  rfl

theorem Attempted.rolledBack (hattempted : Attempted e e₁ t)
    (hfailed : Failed e₁ e' t e.operations.length cause) (hw : Wired e) (h' : Staffed e' t) :
    RolledBack e e' t cause := by
  obtain ⟨events, hT⟩ := hattempted.timeline_failed hfailed
  refine ⟨?_, ?_, ?_, ?_, ?_, ?_, ?_, ?_, ?_, fun hcurrent => ?_, fun hstale => ?_⟩
  · rw [hfailed.operations, hattempted.operations, modify_concat]
  · rw [hT]
  · rw [hfailed.query, hattempted.query]
  · rw [hT]
  · rw [hT]
  · rw [hT]
  · rw [hT]
  · rw [hT]
  · exact h'.work_of_inactive (by rw [hT]; rfl)
  · rw [hT, primed_of_current hcurrent]
    exact ⟨rfl, rfl, rfl, rfl⟩
  · have hprimed : e.primed t = _ := if_pos hstale
    obtain ⟨events', hrestarted⟩ := restarted_eq e t
    rw [hT, hprimed, currentFilter_eq hw, caught_of_stale hstale, hrestarted]
    exact ⟨Buffer.items_clear _, rfl, rfl⟩

-- Who uses the queries, in all.
structure SameUsers (e e' : Engine) : Prop where
  activations : ∀ q, (e'.query q).activations = (e.query q).activations
  subscribers : ∀ q u, (∃ id, (id, .timeline u) ∈ e'.subscriptions q) ↔
    ∃ id, (id, .timeline u) ∈ e.subscriptions q
  listeners : ∀ q, e'.listenerCount q = e.listenerCount q

theorem Unwatched.listenerCount_eq (h : Unwatched e) (q : QueryId) :
    e.listenerCount q = (e.subscriptions q).length :=
  congrArg List.length (List.filter_eq_self.mpr fun _ hmem => h.alive hmem)

theorem sameUsers_of_activated (h : Unwatched e) (h' : Unwatched e') (hsteady : Steady e e')
    (hactivated : ∀ t, (e'.timeline t).activated = (e.timeline t).activated) :
    SameUsers e e' := by
  have hsubscribers (q : QueryId) : ((e'.subscriptions q).map Prod.snd).Perm
      ((e.subscriptions q).map Prod.snd) := by
    obtain ⟨ts, hts, hnodup, hmem⟩ := h.subscribers q
    obtain ⟨ts', hts', hnodup', hmem'⟩ := h'.subscribers q
    rw [hts, hts']
    refine ((List.perm_ext_iff_of_nodup hnodup' hnodup).mpr fun t => ?_).map _
    rw [hmem, hmem', hactivated]
  refine ⟨hsteady, fun q u => ?_, fun q => ?_⟩
  · have hmem := (hsubscribers q).mem_iff (a := .timeline u)
    simpa using hmem
  · have hlength := (hsubscribers q).length_eq
    rw [h.listenerCount_eq, h'.listenerCount_eq]
    simpa using hlength

theorem Attempted.activated_self (hattempted : Attempted e e₁ t) :
    (e₁.timeline t).activated = (e.timeline t).query := by
  obtain ⟨pump, subscription, events, hT⟩ := hattempted.timeline
  rw [hT]

theorem Attempted.steady_failed (hattempted : Attempted e e₁ t) (hfailed : Failed e₁ e' t o cause) :
    Steady e e' := by
  intro q
  rw [hfailed.activations, hattempted.activations, hattempted.activated_self, Nat.add_sub_cancel]

theorem Attempted.activated_failed (hattempted : Attempted e e₁ t)
    (hfailed : Failed e₁ e' t o cause) (hactivated : (e.timeline t).activated = none)
    (u : TimelineId) : (e'.timeline u).activated = (e.timeline u).activated := by
  by_cases hne : u = t
  · subst hne
    rw [hfailed.timeline, hactivated]
    rfl
  · rw [hfailed.activated u hne, hattempted.activated u hne]

-- The other users of the query are told of the activation, and of its end.
theorem Attempted.told_twice (hattempted : Attempted e e₁ t) (hfailed : Failed e₁ e' t o cause)
    {u : TimelineId} (hne : u ≠ t) (hquery : (e.timeline t).query = some q)
    (huses : (e.timeline u).uses q = true) : Invalidated e e₁ u q ∧ Invalidated e₁ e' u q := by
  have hactor : some t ≠ some u := fun heq => hne (Option.some.inj heq).symm
  have htold := hattempted.spreads.told u q hactor (by rw [hquery]; simp) huses
  have huses₁ : (e₁.timeline u).uses q = true := by
    unfold Timeline.uses
    rw [htold.phase, htold.query]
    simp [Phase.isActive]
  refine ⟨htold, hfailed.spreads.told u q hactor ?_ huses₁⟩
  rw [hattempted.activated_self, hquery]
  simp

theorem Attempted.untouched_failed (hattempted : Attempted e e₁ t)
    (hfailed : Failed e₁ e' t o cause) {u : TimelineId} (hne : u ≠ t)
    (hunused : ∀ q, (e.timeline t).query = some q → (e.timeline u).uses q = false) :
    Untouched e e' u := by
  have hactor : some t ≠ some u := fun heq => hne (Option.some.inj heq).symm
  have hothers := hattempted.spreads.others u hactor fun q hq =>
    hunused q (Option.mem_toList.mp hq)
  refine hothers.trans (hfailed.spreads.others u hactor fun q hq => ?_)
  rw [hattempted.activated_self] at hq
  rw [hothers.timeline]
  exact hunused q (Option.mem_toList.mp hq)

-- What an activation has applied of its query need not be applied again.
theorem isStale_of_primed (hunchanged : Unchanged e e')
    (hquery : (e'.timeline t).query = (e.timeline t).query)
    (hrevision : (e'.timeline t).compiledRevision = (e.primed t).compiledRevision) :
    e'.isStale t = false := by
  unfold primed at hrevision
  split at hrevision
  · have happlied : (e'.timeline t).compiledRevision = (e.current t).2 := hrevision
    unfold current at happlied
    cases hq : (e.timeline t).query with
    | none => simp [isStale, hquery, hq, happlied]
    | some q => simp [isStale, hquery, hq, happlied, (hunchanged q).2]
  · rename_i hcurrent
    rw [isStale_congr hquery hrevision fun q => (hunchanged q).2]
    simpa using hcurrent

theorem Attempted.primed_failed (hattempted : Attempted e e₁ t)
    (hfailed : Failed e₁ e' t o cause) : e'.primed t = e'.timeline t := by
  obtain ⟨events, hT⟩ := hattempted.timeline_failed hfailed
  exact primed_of_current (isStale_of_primed (hattempted.unchanged.trans hfailed.unchanged)
    ((hfailed.query t).trans (hattempted.query t)) (by rw [hT]))

-- A timeline is active in two engines, and shows the same in both.
structure SameFill (e e' : Engine) (t : TimelineId) : Prop where
  phase : (e.timeline t).phase = .active ∧ (e'.timeline t).phase = .active
  buffer : (e'.timeline t).buffer = (e.timeline t).buffer
  unread : (e'.timeline t).unread = (e.timeline t).unread
  compiled : (e'.timeline t).compiled = (e.timeline t).compiled

-- What an activation comes to depends on what its timeline was primed with.
theorem Attempted.filled (hattempted : Attempted e e₁ t) {items : List Item}
    (hanswered : Answered e₁ e' t o items) :
    ∃ holders generation pump hasRuntime subscription events, e'.timeline t =
      { e.primed t with
        buffer := ((e.primed t).buffer.merge items).1
        holders
        phase := .active
        generation
        pump
        hasRuntime
        subscription
        activated := (e.timeline t).query
        events } := by
  obtain ⟨pump, subscription, events, hT₁⟩ := hattempted.timeline
  obtain ⟨holders, hT⟩ := hanswered.timeline
  obtain ⟨events', hfilled⟩ := filled_eq items (e₁.timeline t)
  refine ⟨holders, (e.timeline t).generation + 1, pump, true, subscription, events', ?_⟩
  rw [hT, hfilled, hT₁]

theorem Attempted.sameFill (hattempted : Attempted e e₁ t) (hfailed : Failed e₁ e' t o cause)
    (hattempted' : Attempted e' e₂ t) {o₃ o₄ : OperationId} {items : List Item}
    (hanswered₃ : Answered e₂ e₃ t o₃ items) (hanswered₄ : Answered e₁ e₄ t o₄ items) :
    SameFill e₄ e₃ t := by
  obtain ⟨events, hT⟩ := hattempted.timeline_failed hfailed
  obtain ⟨_, _, _, _, _, _, hT₃⟩ := hattempted'.filled hanswered₃
  obtain ⟨_, _, _, _, _, _, hT₄⟩ := hattempted.filled hanswered₄
  rw [hattempted.primed_failed hfailed, hT] at hT₃
  refine ⟨⟨?_, ?_⟩, ?_, ?_, ?_⟩
  · rw [hT₄]
  · rw [hT₃]
  · rw [hT₃, hT₄]
  · rw [hT₃, hT₄]
  · rw [hT₃, hT₄]

theorem Attempted.sameUsers (hattempted : Attempted e e₁ t) (hattempted' : Attempted e' e₂ t)
    (hquery : (e'.timeline t).query = (e.timeline t).query) (hsteady : Steady e e')
    (hactivated : ∀ u, (e'.timeline u).activated = (e.timeline u).activated) {o₃ o₄ : OperationId}
    {items : List Item} (hanswered₃ : Answered e₂ e₃ t o₃ items)
    (hanswered₄ : Answered e₁ e₄ t o₄ items) (h₃ : Unwatched e₃) (h₄ : Unwatched e₄) :
    SameUsers e₄ e₃ := by
  refine sameUsers_of_activated h₄ h₃ (fun q => ?_) fun u => ?_
  · rw [steady_of_queries hanswered₃.queries, steady_of_queries hanswered₄.queries,
      hattempted'.activations, hattempted.activations, hquery, hsteady]
  · by_cases hne : u = t
    · subst hne
      obtain ⟨_, _, _, _, _, _, hT₃⟩ := hattempted'.filled hanswered₃
      obtain ⟨_, _, _, _, _, _, hT₄⟩ := hattempted.filled hanswered₄
      rw [hT₃, hT₄, hquery]
    · rw [(hanswered₃.alone.others u hne).timeline, (hanswered₄.alone.others u hne).timeline,
        hattempted'.activated u hne, hattempted.activated u hne, hactivated]

-- An activation that storage fails leaves no trace, but for a change of its query that it has
-- applied and for the other users of the query, who were told twice. If nobody from outside listens
-- and nothing else happens meanwhile, it comes to one end (`Ends.unique`), from where another
-- activation shows the same as one in its place would have.
theorem failed_activation (hruns : ({} : Engine).Runs moves) (hlisten : ∀ q, .listen q ∉ moves)
    (hrest : (({} : Engine).replay moves).stack = [])
    (halive : (({} : Engine).replay moves).isAlive (.timeline t) = true)
    (hinactive : ((({} : Engine).replay moves).timeline t).phase = .inactive)
    (cause : StorageError) :
    let e := ({} : Engine).replay moves
    ∃ e₁ e', e.Ends (.startActivation t true) e₁ ∧
      e₁.Ends (.answer (.operation e.operations.length) (.error cause)) e' ∧
      RolledBack e e' t cause ∧ Unchanged e e' ∧ SameUsers e e' ∧
      -- the others
      (∀ u q, u ≠ t → (e.timeline t).query = some q → (e.timeline u).uses q = true →
        Invalidated e e₁ u q ∧ Invalidated e₁ e' u q) ∧
      (∀ u, u ≠ t → (∀ q, (e.timeline t).query = some q → (e.timeline u).uses q = false) →
        Untouched e e' u) ∧
      -- another activation
      ∀ items, ∃ e₂ e₃ e₄, e'.Ends (.startActivation t true) e₂ ∧
        e₂.Ends (.answer (.operation (e.operations.length + 1)) (.ok items)) e₃ ∧
        e₁.Ends (.answer (.operation e.operations.length) (.ok items)) e₄ ∧
        SameFill e₄ e₃ t ∧ SameUsers e₄ e₃ := by
  intro e
  have h : Unwatched e := unwatched_init.replay hruns hlisten
  obtain ⟨e₁, hends₁, hattempted⟩ := attempt_ends h hrest halive hinactive
  have h₁ := hends₁.unwatched h fun _ => nofun
  obtain ⟨e', hends, hfailed⟩ := hattempted.fail_ends h₁ hends₁.2.2 halive cause
  have h' := hends.unwatched h₁ fun _ => nofun
  have hrolledBack := hattempted.rolledBack hfailed h.wired (h'.staffed t)
  have hsteady := hattempted.steady_failed hfailed
  have hactivated := hattempted.activated_failed hfailed (h.activated_of_inactive hinactive)
  refine ⟨e₁, e', hends₁, hends, hrolledBack, hattempted.unchanged.trans hfailed.unchanged,
    sameUsers_of_activated h h' hsteady hactivated,
    fun u q hne hquery huses => hattempted.told_twice hfailed hne hquery huses,
    fun u hne hunused => hattempted.untouched_failed hfailed hne hunused, fun items => ?_⟩
  have halive' : e'.isAlive (.timeline t) = true := by
    rw [isAlive_eq (hends.lt (hends₁.lt (isAlive_lt halive))), hrolledBack.holders]
    exact decide_eq_true (holders_pos halive)
  have hlength : e'.operations.length = e.operations.length + 1 := by
    rw [hrolledBack.operations, List.length_append]
    rfl
  obtain ⟨e₂, hends₂, hattempted'⟩ := attempt_ends h' hends.2.2 halive' hrolledBack.phase
  obtain ⟨e₃, hends₃, hanswered₃⟩ := hattempted'.answer_ends hends₂.2.2 halive' items
  obtain ⟨e₄, hends₄, hanswered₄⟩ := hattempted.answer_ends hends₁.2.2 halive items
  have h₂ := hends₂.unwatched h' fun _ => nofun
  exact ⟨e₂, e₃, e₄, hends₂, hlength ▸ hends₃, hends₄,
    hattempted.sameFill hfailed hattempted' hanswered₃ hanswered₄,
    hattempted.sameUsers hattempted' hrolledBack.query hsteady hactivated hanswered₃ hanswered₄
      (hends₃.unwatched h₂ fun _ => nofun) (hends₄.unwatched h₁ fun _ => nofun)⟩

end

-- Two timelines have a query that somebody outside has activated too, and a third has another. The
-- first and the third are active, and the query has changed since the second was made.
def sharedChange : List Move :=
  [.addQuery .contradiction none, .addQuery .contradiction none, .addChannel 4,
    .addTimeline {} 0 0 (some 0) true, .addTimeline {} 0 0 (some 0) true,
    .addTimeline {} 0 0 (some 1) true, .activateQuery 0, .step, .startActivation 0 true, .step, .step,
    .startActivation 2 true, .step, .step, .setExpression 0 (.not .contradiction), .step, .step, .step,
    .step, .step]

theorem failed_activation_sharedChange :
    let e := ({} : Engine).replay sharedChange
    ({} : Engine).Runs sharedChange ∧ (∀ q, .listen q ∉ sharedChange) ∧ e.stack = [] ∧
      e.isAlive (.timeline 1) = true ∧ (e.timeline 1).phase = .inactive ∧ e.isStale 1 = true ∧
      ∃ e₁ e', e.Ends (.startActivation 1 true) e₁ ∧
        e₁.Ends (.answer (.operation 2) (.error (.unavailable "offline"))) e' ∧
        (e'.timeline 1).compiled = (e.currentFilter 1).1 ∧ SameUsers e e' ∧
        Invalidated e e₁ 0 0 ∧ Invalidated e₁ e' 0 0 ∧ Untouched e e' 2 ∧
        ∃ e₂ e₃ e₄, e'.Ends (.startActivation 1 true) e₂ ∧
          e₂.Ends (.answer (.operation 3) (.ok [])) e₃ ∧
          e₁.Ends (.answer (.operation 2) (.ok [])) e₄ ∧ SameFill e₄ e₃ 1 ∧ SameUsers e₄ e₃ := by
  have hruns : ({} : Engine).Runs sharedChange := by decide
  have hlisten : ∀ q, .listen q ∉ sharedChange := by simp [sharedChange]
  have hrest : (({} : Engine).replay sharedChange).stack = [] := List.isEmpty_iff.mp (by decide)
  have hstale : (({} : Engine).replay sharedChange).isStale 1 = true := by decide
  obtain ⟨e₁, e', hends₁, hends, hrolledBack, -, husers, htold, hothers, hagain⟩ :=
    failed_activation (t := 1) hruns hlisten hrest (by decide) (by decide) (.unavailable "offline")
  obtain ⟨htold₁, htold'⟩ := htold 0 0 (by decide) (by decide) (by decide)
  exact ⟨hruns, hlisten, hrest, by decide, by decide, hstale, e₁, e', hends₁, hends,
    (hrolledBack.refitted hstale).2.2, husers, htold₁, htold',
    hothers 2 (by decide) (by decide), hagain []⟩

end FilteredFeed.Engine
