import FilteredFeed.Proofs.Engine.Leaves

namespace FilteredFeed.Engine

open FilteredFeed.Feed FilteredFeed.Filter FilteredFeed.Listener FilteredFeed.Timeline
open FilteredFeed.Scenario (Asker)

variable [Patterns]
variable {e e' e'' : Engine} {t : TimelineId} {q : QueryId} {m : Move} {rest : List Frame}
variable {target : Target} {targets : List Target}

-- A timeline that nobody holds stays so.
structure Unclaimed (e e' : Engine) : Prop where
  holders : ∀ t, (e.timeline t).holders = 0 → (e'.timeline t).holders = 0

namespace Unclaimed

theorem refl (e : Engine) : Unclaimed e e := ⟨fun _ => id⟩

theorem trans (h : Unclaimed e e') (h' : Unclaimed e' e'') : Unclaimed e e'' :=
  ⟨fun t => h'.holders t ∘ h.holders t⟩

end Unclaimed

theorem unclaimed_of_timelines (h : e'.timelines = e.timelines) : Unclaimed e e' :=
  ⟨fun t hnone => timeline_congr h t ▸ hnone⟩

theorem Background.unclaimed (h : Background e e') : Unclaimed e e' :=
  unclaimed_of_timelines h.timelines

-- What happens to one timeline says nothing of its holders.
theorem Apart.unclaimed (h : Apart t e e') (hT : t < e.timelines.length →
    (e.timeline t).holders = 0 → (e'.timeline t).holders = 0) : Unclaimed e e' := by
  refine ⟨fun t' hnone => ?_⟩
  by_cases hne : t' = t
  · subst hne
    by_cases ht : t' < e.timelines.length
    · exact hT ht hnone
    · have hle := Nat.le_of_not_lt ht
      rw [timeline_of_le hle] at hnone
      rwa [timeline_of_le (h.size ▸ hle)]
  · exact (h.others t' hne).symm ▸ hnone

theorem unclaimed_modifyTimeline (e : Engine) (t : TimelineId) {f : Timeline → Timeline}
    (hf : ∀ T, T.holders = 0 → (f T).holders = 0) : Unclaimed e (e.modifyTimeline t f) :=
  (within_modifyTimeline e t f).toApart.unclaimed fun ht hnone =>
    timeline_modifyTimeline_self ht f ▸ hf _ hnone

theorem holders_emit (T : Timeline) (delta : Delta) : (T.emit delta).holders = T.holders := by
  obtain ⟨events, h⟩ := emit_eq T delta
  rw [h]

theorem unclaimed_emit (e : Engine) (t : TimelineId) (delta : Delta) :
    Unclaimed e (e.emit t delta) :=
  unclaimed_modifyTimeline e t fun T hnone => (holders_emit T delta).trans hnone

theorem unclaimed_absorb (e : Engine) (t : TimelineId) {f : Timeline → Timeline}
    (hf : ∀ T, (f T).holders = T.holders) (items : List Item) :
    Unclaimed e (e.modifyTimeline t fun T => ((f T).absorb items).1) := by
  refine unclaimed_modifyTimeline e t fun T hnone => ?_
  obtain ⟨events, h⟩ := absorb_eq (f T) items
  rw [h]
  exact (hf T).trans hnone

theorem unclaimed_invalidateQuietly (e : Engine) (t : TimelineId) :
    Unclaimed e (e.invalidateQuietly t).2 := by
  refine (within_invalidateQuietly e t).toApart.unclaimed fun ht hnone => ?_
  rw [timeline_invalidateQuietly ht]
  exact hnone

theorem unclaimed_invalidateNow (e : Engine) (t : TimelineId) : Unclaimed e (e.invalidateNow t) :=
  (unclaimed_invalidateQuietly e t).trans (unclaimed_emit ..)

theorem unclaimed_recompile (e : Engine) (t : TimelineId) : Unclaimed e (e.recompile t) := by
  refine (within_recompile e t).toApart.unclaimed fun ht hnone => ?_
  rw [timeline_recompile ht]
  exact hnone

theorem unclaimed_prepared (e : Engine) (t : TimelineId) : Unclaimed e (e.prepared t) := by
  refine (within_prepared e t).toApart.unclaimed fun ht hnone => ?_
  rcases timeline_prepared ht with ⟨-, hT⟩ | ⟨-, events, hT⟩
  · rw [hT]
    exact hnone
  · rw [hT]
    exact hnone

theorem unclaimed_prepare (e : Engine) (t : TimelineId) (o : OperationId) (generation : Nat) :
    Unclaimed e (e.prepare t o generation) := by
  rw [prepare_eq]
  split
  · exact unclaimed_of_timelines rfl
  · exact (unclaimed_prepared e t).trans (unclaimed_of_timelines rfl)

theorem unclaimed_teardown (e : Engine) (t : TimelineId) : Unclaimed e (e.teardown t).2 := by
  refine (apart_teardown e t).unclaimed fun ht hnone => ?_
  rw [timeline_teardown ht]
  exact hnone

theorem unclaimed_push (h : Unclaimed e e') (frames : List Frame) :
    Unclaimed e (e'.push frames) := h.trans (unclaimed_of_timelines rfl)

theorem unclaimed_release (e : Engine) (target : Target) : Unclaimed e (e.release target) := by
  cases target with
  | observer o => exact unclaimed_of_timelines rfl
  | timeline t =>
      have hdropped : Unclaimed e (e.dropHold t) :=
        unclaimed_modifyTimeline e t fun T hnone => by simp [hnone]
      rw [release_eq]
      split
      · exact unclaimed_push (hdropped.trans (unclaimed_teardown _ t)) _
      · exact hdropped

theorem unclaimed_close (e : Engine) (o : OperationId) (status : Status) :
    Unclaimed e (e.close o status) := by
  unfold close
  split
  · have hset : Unclaimed e (e.setStatus o status) := unclaimed_of_timelines rfl
    exact hset.trans (unclaimed_release ..)
  · exact .refl e

-- Only those are held more who are held.

theorem holders_retain (h : target ≠ .timeline t) :
    ((e.retain target).timeline t).holders = (e.timeline t).holders := by
  cases target with
  | observer o => rfl
  | timeline t' =>
      have hne : t ≠ t' := fun heq => h (heq ▸ rfl)
      exact congrArg Timeline.holders (timeline_modifyTimeline_ne hne _)

theorem unclaimed_retain (h : e.isAlive target = true) : Unclaimed e (e.retain target) := by
  refine ⟨fun t hnone => (holders_retain ?_).trans hnone⟩
  rintro rfl
  exact Nat.ne_of_gt (holders_pos h) hnone

theorem unclaimed_hold (h : e.isAlive (.timeline t) = true) : Unclaimed e (e.hold t) :=
  unclaimed_push (unclaimed_retain h) _

theorem unclaimed_retainAll (h : ∀ x ∈ targets, e.isAlive x = true) :
    Unclaimed e (e.retainAll targets) := by
  refine ⟨fun t hnone => ?_⟩
  have hothers : .timeline t ∉ targets := fun hmem =>
    Nat.ne_of_gt (holders_pos (h _ hmem)) hnone
  clear h
  induction targets generalizing e with
  | nil => exact hnone
  | cons target targets ih =>
      have hne : target ≠ .timeline t := fun heq => hothers (heq ▸ List.mem_cons_self)
      exact ih ((holders_retain hne).trans hnone) fun hmem => hothers (List.mem_cons_of_mem _ hmem)

theorem unclaimed_addOperation (h : e.isAlive (.timeline t) = true) (kind : OperationKind) :
    Unclaimed e (e.addOperation t kind).2 := by
  have hretained : (e.addOperation t kind).2.timelines = (e.retain (.timeline t)).timelines := rfl
  refine ⟨fun t' hnone => ?_⟩
  rw [timeline_congr hretained]
  exact (unclaimed_retain h).holders t' hnone

-- A round is for those who are alive when it begins.

omit [Patterns] in
theorem alive_of_startRound {r : Registry Target} {alive : Target → Bool} {revision : Nat}
    {x : Target} (h : x ∈ (r.startRound alive revision).waiting) : alive x = true := by
  obtain ⟨s, hs, rfl⟩ := List.mem_map.mp h
  exact (List.mem_filter.mp hs).2

theorem unclaimed_announce (e : Engine) (q : QueryId) (revision : Nat) :
    Unclaimed e (e.announce q revision) := by
  unfold announce
  dsimp only
  split
  · exact unclaimed_of_timelines rfl
  · rename_i hidle
    have hasked : Unclaimed e (e.modifyQuery q fun query =>
        { query with registry := query.registry.request e.isAlive revision }) :=
      unclaimed_of_timelines rfl
    refine unclaimed_push (hasked.trans (unclaimed_retainAll fun x hx => ?_)) _
    have hround : (e.query q).registry.round = none := by
      simpa [Registry.isNotifying] using hidle
    rcases query_modifyQuery e q q (fun query =>
      { query with registry := query.registry.request e.isAlive revision }) with hQ | ⟨-, hQ⟩
    · rw [hQ, Registry.waiting, hround] at hx
      cases hx
    · rw [hQ, Registry.request_of_none hround] at hx
      exact alive_of_startRound hx

theorem unclaimed_continueRounds (e : Engine) (q : QueryId) : Unclaimed e (e.continueRounds q) := by
  have hnext : ∀ listeners, ((e.query q).registry.advance e.isAlive).1 = .again listeners →
      ∀ x ∈ listeners, e.isAlive x = true := by
    intro listeners hagain x hx
    unfold Registry.advance at hagain
    split at hagain
    · cases hagain
    · cases hagain
    · split at hagain
      · cases hagain
        exact alive_of_startRound hx
      · cases hagain
  unfold continueRounds
  dsimp only
  split
  · exact unclaimed_of_timelines rfl
  · rename_i listeners hagain
    have hbegun : Unclaimed e (e.modifyQuery q fun query =>
        { query with registry := ((e.query q).registry.advance e.isAlive).2 }) :=
      unclaimed_of_timelines rfl
    refine unclaimed_push (hbegun.trans (unclaimed_retainAll ?_)) _
    exact hnext listeners hagain
  · exact unclaimed_of_timelines rfl

theorem unclaimed_onInvalidated (e : Engine) (t : TimelineId) (revision : Nat) :
    Unclaimed e (e.onInvalidated t revision) := by
  unfold onInvalidated
  dsimp only
  split
  · exact .refl e
  · split
    · split
      · split
        · exact unclaimed_modifyTimeline e t fun _ => id
        · exact .refl e
      · exact unclaimed_invalidateNow e t
    · exact unclaimed_invalidateNow e t

theorem unclaimed_enrol (e : Engine) (t : TimelineId) (q : QueryId) : Unclaimed e (e.enrol t q) := by
  refine (apart_enrol e t q).unclaimed fun ht hnone => ?_
  rw [timeline_enrol ht]
  exact hnone

theorem unclaimed_attach (e : Engine) (t : TimelineId) (q : QueryId) (epoch : Nat)
    (purpose : Purpose) : Unclaimed e (e.attach t q epoch purpose) := by
  rw [attach_eq]
  split
  · cases purpose <;> exact unclaimed_of_timelines rfl
  · refine (unclaimed_enrol e t q).trans ?_
    cases purpose with
    | swap =>
        dsimp only
        unfold refresh
        split
        · exact unclaimed_invalidateNow ..
        · exact .refl _
    | activation o generation => exact unclaimed_prepare ..

theorem unclaimed_perform (e : Engine) (f : Frame) : Unclaimed e (e.perform f) := by
  cases f with
  | activate q =>
      refine unclaimed_of_timelines ?_
      exact timelines_toggled _ q
  | deactivate q => exact unclaimed_of_timelines (timelines_removeActivation e q)
  | announce q revision => exact unclaimed_announce e q revision
  | rounds q => exact unclaimed_continueRounds e q
  | call target revision =>
      cases target with
      | timeline t => exact unclaimed_onInvalidated e t revision
      | observer o => exact unclaimed_of_timelines rfl
  | observer o revision => exact .refl e
  | release target => exact unclaimed_release e target
  | attach t q epoch purpose => exact unclaimed_attach e t q epoch purpose
  | emit t delta => exact unclaimed_emit e t delta
  | finish o result => exact unclaimed_close e o _

-- Somebody uses a timeline.

theorem unclaimed_offer (e : Engine) (t : TimelineId) (item : Item) :
    Unclaimed e (e.offer t item).2 := by
  have hcaught : Unclaimed e (e.catchUp t) := by
    unfold catchUp
    split
    · refine (unclaimed_invalidateQuietly e t).trans (Unclaimed.trans ?_ (unclaimed_emit ..))
      exact unclaimed_modifyTimeline _ t fun _ => id
    · exact .refl e
  rw [offer_eq]
  split
  · exact .refl e
  · split
    · refine hcaught.trans (unclaimed_modifyTimeline _ t fun T hnone => ?_)
      obtain ⟨events, unread, notified, h⟩ := receive_eq T item
      rw [h]
      exact hnone
    · exact hcaught

theorem unclaimed_deactivate (e : Engine) (t : TimelineId) : Unclaimed e (e.deactivate t) := by
  unfold deactivate
  split
  · exact unclaimed_push (unclaimed_teardown e t) _
  · exact .refl e

theorem unclaimed_invalidate (e : Engine) (t : TimelineId) : Unclaimed e (e.invalidate t) := by
  unfold invalidate
  split
  · exact .refl e
  · exact unclaimed_invalidateNow e t

theorem unclaimed_dispose (e : Engine) (t : TimelineId) : Unclaimed e (e.dispose t) := by
  unfold dispose
  split
  · exact .refl e
  · refine unclaimed_push ((unclaimed_teardown e t).trans ?_) _
    exact unclaimed_modifyTimeline _ t fun _ => id

theorem unclaimed_setQuery (e : Engine) (t : TimelineId) (query : Option QueryId) :
    Unclaimed e (e.setQuery t query).2 := by
  have hleft : Unclaimed e (e.leaveQuery t query) := by
    refine (apart_leaveQuery e t query).unclaimed fun ht hnone => ?_
    rw [timeline_leaveQuery ht]
    exact hnone
  rw [setQuery_eq]
  split
  · exact .refl e
  · exact unclaimed_push (hleft.trans (unclaimed_invalidateNow ..)) _

theorem unclaimed_startActivation (h : e.isAlive (.timeline t) = true) (hasRuntime : Bool) :
    Unclaimed e (e.startActivation t hasRuntime).2 := by
  have hadded := unclaimed_addOperation h .activation
  rcases startActivation_cases e t hasRuntime with ⟨-, -, heq⟩ | ⟨-, result, heq⟩
  · rw [heq]
    refine hadded.trans ?_
    have hlaunch : Unclaimed (e.addOperation t .activation).2
        ((e.addOperation t .activation).2.launch t) := by
      refine Unclaimed.trans ?_ (unclaimed_modifyTimeline _ t fun _ => id)
      exact unclaimed_of_timelines rfl
    unfold launched
    split
    · exact unclaimed_push hlaunch _
    · exact hlaunch.trans (unclaimed_prepare ..)
  · rw [heq]
    exact hadded.trans (unclaimed_close ..)

theorem unclaimed_startPage (h : e.isAlive (.timeline t) = true) (before : Option ItemId)
    (limit : Nat) : Unclaimed e (e.startPage t before limit).2 := by
  have hadded := unclaimed_addOperation h .page
  unfold startPage
  dsimp only
  split
  · exact hadded.trans (unclaimed_close ..)
  · exact hadded.trans (unclaimed_of_timelines rfl)

-- Storage answers.

theorem unclaimed_complete (e : Engine) (o : OperationId) (result : Except StorageError (List Item)) :
    Unclaimed e (e.complete o result) := by
  cases completes e o result with
  | unasked hnone heq => exact unclaimed_of_timelines (by rw [heq])
  | ended hop hwhy heq =>
      rw [heq]
      exact unclaimed_close ..
  | @merged t kind r items phase outcome hop hg hphase heq =>
      rw [heq]
      exact (unclaimed_absorb e t (f := fun T => { T with phase }) (fun _ => rfl) items).trans
        (unclaimed_close ..)
  | rolledBack hop hg heq =>
      have hrunning : Unclaimed e (e.setStatus o .running) := unclaimed_of_timelines rfl
      rw [heq]
      exact unclaimed_push (hrunning.trans (unclaimed_teardown ..)) _

theorem unclaimed_completeTask (e : Engine) (k : TaskId) (result : Except StorageError (List Item)) :
    Unclaimed e (e.completeTask k result) := by
  cases replenishes e k result with
  | background hb => exact hb.unclaimed
  | filled hasks halive hg hb heq =>
      rw [heq]
      exact hb.unclaimed.trans (unclaimed_absorb _ _ (f := replenished) (fun _ => rfl) _)
  | failed hasks halive hg hb heq =>
      rw [heq]
      exact hb.unclaimed.trans (unclaimed_modifyTimeline _ _ fun _ => id)

theorem unclaimed_turn (e : Engine) (k : TaskId) : Unclaimed e (e.turn k) := by
  cases polls e k with
  | background hb => exact hb.unclaimed
  | offered htask halive hitem hb heq =>
      rw [heq]
      exact hb.unclaimed.trans (unclaimed_offer ..)
  | @lagged t s started missed e₁ htask halive hactive hmissed hb heq =>
      rw [heq]
      refine hb.unclaimed.trans ((within_startRefetch e₁ t).toApart.unclaimed fun ht hnone => ?_)
      rw [timeline_startRefetch ht]
      exact hnone

-- Nobody comes to hold a timeline that nobody holds.
theorem unclaimed_after (hallows : e.allows m = true) : Unclaimed e (e.after m) := by
  cases m with
  | step =>
      obtain ⟨f, rest, hs, -, hafter⟩ := after_step hallows
      have hpopped : Unclaimed e { e with stack := rest } := unclaimed_of_timelines rfl
      rw [hafter]
      exact hpopped.trans (unclaimed_perform ..)
  | leaveObserver =>
      change Unclaimed e e.leaveObserver
      unfold leaveObserver
      split <;> exact unclaimed_of_timelines rfl
  | addQuery | addChannel | setExpression | setSource | activateQuery | deactivateQuery | compile
  | listen | unsubscribe => exact unclaimed_of_timelines rfl
  | addTimeline config storage stream query hasSink =>
      have hadded (new : Timeline) : Unclaimed e { e with timelines := e.timelines ++ [new] } := by
        refine ⟨fun t hnone => ?_⟩
        have ht : t < e.timelines.length := by
          refine Nat.lt_of_not_le fun hle => ?_
          rw [timeline_of_le hle] at hnone
          cases hnone
        simpa [timeline, List.getElem?_append_left ht] using hnone
      exact (hadded _).trans (unclaimed_recompile ..)
  | releaseObserver o => exact unclaimed_release e (.observer o)
  | retain t => exact unclaimed_retain (Bool.and_eq_true_iff.mp hallows).2
  | drop t => exact unclaimed_release e (.timeline t)
  | deactivate t =>
      exact (unclaimed_hold (Bool.and_eq_true_iff.mp hallows).2).trans (unclaimed_deactivate ..)
  | invalidate t =>
      exact (unclaimed_hold (Bool.and_eq_true_iff.mp hallows).2).trans (unclaimed_invalidate ..)
  | dispose t =>
      exact (unclaimed_hold (Bool.and_eq_true_iff.mp hallows).2).trans (unclaimed_dispose ..)
  | setQuery t query =>
      have halive := (Bool.and_eq_true_iff.mp (Bool.and_eq_true_iff.mp hallows).1).2
      exact (unclaimed_hold halive).trans (unclaimed_setQuery ..)
  | accepts t item =>
      refine unclaimed_of_timelines ?_
      change (e.currentFilter t).2.timelines = _
      unfold currentFilter
      split
      · split <;> rfl
      · rfl
  | takeUnread t => exact unclaimed_modifyTimeline e t fun _ => id
  | offer t item => exact unclaimed_offer e t item
  | publish s item => exact (background_publish e s item).unclaimed
  | closeStream s => exact (background_closeStream e s).unclaimed
  | startActivation t hasRuntime =>
      exact unclaimed_startActivation (Bool.and_eq_true_iff.mp hallows).2 hasRuntime
  | startPage t before limit =>
      exact unclaimed_startPage (Bool.and_eq_true_iff.mp hallows).2 before limit
  | answer asker result =>
      cases asker with
      | operation o => exact unclaimed_complete e o result
      | task k => exact unclaimed_completeTask e k result
  | cancel o =>
      change Unclaimed e (e.cancel o)
      unfold cancel
      split
      · exact unclaimed_close ..
      · exact .refl e
  | wake k => exact (background_wake e k).unclaimed
  | nextTask => exact (background_nextTask e).unclaimed
  | turn k => exact unclaimed_turn e k

theorem isAlive_after (hallows : e.allows m = true) (ht : t < e.timelines.length)
    (halive : (e.after m).isAlive (.timeline t) = true) : e.isAlive (.timeline t) = true := by
  rw [isAlive_eq ht, decide_eq_true_iff]
  refine Nat.pos_of_ne_zero fun hnone => ?_
  exact Nat.ne_of_gt (holders_pos halive) ((unclaimed_after hallows).holders t hnone)

theorem isAlive_replay {moves : List Move} (hruns : e.Runs moves) (ht : t < e.timelines.length)
    (halive : (e.replay moves).isAlive (.timeline t) = true) : e.isAlive (.timeline t) = true := by
  induction moves generalizing e with
  | nil => exact halive
  | cons m moves ih =>
      obtain ⟨hallows, -, hlater⟩ := hruns
      exact isAlive_after hallows ht (ih hlater (lt_after ht hallows) halive)

end FilteredFeed.Engine
