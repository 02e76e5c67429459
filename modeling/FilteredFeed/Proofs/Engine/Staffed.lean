import FilteredFeed.Proofs.Engine.Work

namespace FilteredFeed.Engine

open FilteredFeed.Feed FilteredFeed.Filter FilteredFeed.Listener FilteredFeed.Timeline
open FilteredFeed.Scenario (Asker)

variable [Patterns]
variable {e e' e'' : Engine} {t : TimelineId} {k : TaskId} {m : Move} {d : Option TimelineId}

-- How a timeline and its background work belong together. What is live is what the timeline knows.
structure Manned (e : Engine) (t : TimelineId) : Prop where
  pump : (e.timeline t).pump.isSome = (e.timeline t).phase.isActive
  runtime : (e.timeline t).phase.isActive = true → (e.timeline t).hasRuntime = true
  refetch : (e.timeline t).refetch.isSome = true → (e.timeline t).phase.isActive = true
  pumping : ∀ k, (e.timeline t).pump = some k → ∃ s, e.jobs[k]? = some (.pump t s)
  refetching : ∀ k, (e.timeline t).refetch = some k → ∃ r, e.jobs[k]? = some (.refetch t r)
  pumps : ∀ k s, e.work k = some (.pump t s) → (e.timeline t).pump = some k
  refetches : ∀ k r, e.work k = some (.refetch t r) → (e.timeline t).refetch = some k

-- A refetch that is live is one of the present generation, and there is one while the timeline waits
-- for it.
structure Staffed (e : Engine) (t : TimelineId) : Prop extends Manned e t where
  current : ∀ k r, e.work k = some (.refetch t r) → r.generation = (e.timeline t).generation
  refilled : (e.timeline t).phase = .invalidated → ∃ k r, e.work k = some (.refetch t r)

theorem Manned.idle (h : Manned e t) (hi : Idle d e e') (hd : d ≠ some t) : Manned e' t := by
  have hT := hi.timeline t hd
  refine ⟨?_, ?_, ?_, ?_, ?_, ?_, ?_⟩
  · rw [hT.pump, hT.phase]
    exact h.pump
  · rw [hT.phase, hT.hasRuntime]
    exact h.runtime
  · rw [hT.refetch, hT.phase]
    exact h.refetch
  · rw [hT.pump]
    intro k hk
    obtain ⟨s, hjob⟩ := h.pumping k hk
    exact ⟨s, hi.jobs k _ hjob⟩
  · rw [hT.refetch]
    intro k hk
    obtain ⟨r, hjob⟩ := h.refetching k hk
    exact ⟨r, hi.jobs k _ hjob⟩
  · rw [hT.pump]
    exact fun k s hwork => h.pumps k s ((hi.work k (.pump t s) hd).mp hwork)
  · rw [hT.refetch]
    exact fun k r hwork => h.refetches k r ((hi.work k (.refetch t r) hd).mp hwork)

theorem Staffed.idle (h : Staffed e t) (hi : Idle d e e') (hd : d ≠ some t) : Staffed e' t := by
  have hT := hi.timeline t hd
  refine ⟨h.toManned.idle hi hd, ?_, ?_⟩
  · rw [hT.generation]
    exact fun k r hwork => h.current k r ((hi.work k (.refetch t r) hd).mp hwork)
  · rw [hT.phase]
    intro hphase
    obtain ⟨k, r, hwork⟩ := h.refilled hphase
    exact ⟨k, r, (hi.work k (.refetch t r) hd).mpr hwork⟩

-- Nothing is lost or doubled.
def Staffs (e e' : Engine) : Prop := (∀ t, Staffed e t) → ∀ t, Staffed e' t

theorem Staffs.refl (e : Engine) : Staffs e e := id

theorem Staffs.trans (h : Staffs e e') (h' : Staffs e' e'') : Staffs e e'' := h' ∘ h

theorem Idle.staffs (h : Idle none e e') : Staffs e e' := fun hs t => (hs t).idle h nofun

theorem Idle.staffed (h : Idle (some t) e e') (hs : ∀ t, Staffed e t) (ht : Staffed e' t) :
    ∀ t, Staffed e' t := by
  intro t'
  by_cases heq : t = t'
  · exact heq ▸ ht
  · exact (hs t').idle h fun hsome => heq (Option.some.inj hsome)

-- A refetch is started in place of another one.

theorem Manned.idle_abort_refetch (h : Manned e t) :
    Idle (some t) e (e.abort? (e.timeline t).refetch) := by
  refine idle_abort? fun k hk => ?_
  obtain ⟨r, hjob⟩ := h.refetching k hk
  exact ⟨_, hjob, rfl⟩

theorem tasks_length_abort? (e : Engine) (handle : Option TaskId) :
    (e.abort? handle).tasks.length = e.tasks.length := by
  simpa [jobs] using congrArg List.length (background_abort? e handle).jobs

theorem startRefetch_eq (hruntime : (e.timeline t).hasRuntime = true) :
    e.startRefetch t =
      ((e.abort? (e.timeline t).refetch).spawn
        (.refetch t (refill (e.timeline t)))).2.modifyTimeline t fun timeline =>
          { timeline with refetch := some (e.abort? (e.timeline t).refetch).tasks.length } := by
  unfold startRefetch
  rw [if_pos hruntime]
  rfl

theorem work_startRefetch (hruntime : (e.timeline t).hasRuntime = true) (k : TaskId) :
    (e.startRefetch t).work k =
      if k = e.tasks.length then some (.refetch t (refill (e.timeline t)))
      else if (e.timeline t).refetch = some k then none else e.work k := by
  rw [startRefetch_eq hruntime, work_modifyTimeline, work_spawn, work_abort?, tasks_length_abort?]

theorem Manned.idle_startRefetch (h : Manned e t) : Idle (some t) e (e.startRefetch t) := by
  by_cases hruntime : (e.timeline t).hasRuntime = true
  · rw [startRefetch_eq hruntime]
    exact (h.idle_abort_refetch.trans (idle_spawn _ (.refetch t _))).trans (idle_change ..)
  · unfold startRefetch
    rw [if_neg hruntime]
    exact .refl _ _

theorem jobs_startRefetch_self (hruntime : (e.timeline t).hasRuntime = true) :
    (e.startRefetch t).jobs[e.tasks.length]? = some (.refetch t (refill (e.timeline t))) := by
  rw [jobs_startRefetch, if_pos hruntime]
  simp [jobs]

theorem Manned.startRefetch (h : Manned e t) (hactive : (e.timeline t).phase.isActive = true) :
    Staffed (e.startRefetch t) t := by
  have hruntime := h.runtime hactive
  have hT : (e.startRefetch t).timeline t =
      { e.timeline t with refetch := some e.tasks.length } := by
    rw [timeline_startRefetch (lt_of_active hactive), if_pos hruntime]
  have hwork := work_startRefetch hruntime
  -- what is live is the new refetch, or the pump
  have hrefetch (k : TaskId) (r : FetchRequest)
      (hk : (e.startRefetch t).work k = some (.refetch t r)) :
      k = e.tasks.length ∧ r = refill (e.timeline t) := by
    rw [hwork] at hk
    split at hk
    · rename_i hnew
      exact ⟨hnew, (Job.refetch.inj (Option.some.inj hk)).2.symm⟩
    · split at hk
      · cases hk
      · rename_i hold
        exact absurd (h.refetches k r hk) hold
  refine ⟨⟨?_, ?_, ?_, ?_, ?_, ?_, ?_⟩, ?_, ?_⟩
  · rw [hT]
    exact h.pump
  · rw [hT]
    exact h.runtime
  · rw [hT]
    exact fun _ => hactive
  · rw [hT]
    intro k hk
    obtain ⟨s, hjob⟩ := h.pumping k hk
    exact ⟨s, h.idle_startRefetch.jobs k _ hjob⟩
  · rw [hT]
    rintro k hk
    obtain rfl := Option.some.inj hk
    exact ⟨_, jobs_startRefetch_self hruntime⟩
  · rw [hT]
    intro k s hk
    rw [hwork] at hk
    split at hk
    · cases hk
    · split at hk
      · cases hk
      · exact h.pumps k s hk
  · rw [hT]
    intro k r hk
    rw [(hrefetch k r hk).1]
  · rw [hT]
    intro k r hk
    rw [(hrefetch k r hk).2]
    rfl
  · refine fun _ => ⟨e.tasks.length, refill (e.timeline t), ?_⟩
    rw [hwork, if_pos rfl]

-- A timeline is emptied.

theorem tasks_recompile (e : Engine) (t : TimelineId) : (e.recompile t).tasks = e.tasks := by
  unfold recompile
  split <;> rfl

theorem work_restart (e : Engine) (t : TimelineId) (k : TaskId) :
    (e.restart t).work k = if (e.timeline t).refetch = some k then none else e.work k := by
  unfold restart
  rw [work_congr (tasks_recompile ..), work_modifyTimeline, work_abort?]

theorem Manned.idle_restart (h : Manned e t) : Idle (some t) e (e.restart t) :=
  (h.idle_abort_refetch.trans (idle_change ..)).trans (idle_recompile ..).of_none

-- Where nothing was being refetched, nothing is.
theorem Manned.unrefetched (h : Manned e t) (k : TaskId) (r : FetchRequest) :
    (e.restart t).work k ≠ some (.refetch t r) := by
  rw [work_restart]
  split
  · exact nofun
  · rename_i hold
    exact fun hwork => hold (h.refetches k r hwork)

theorem Manned.restart (h : Manned e t) (ht : t < e.timelines.length) : Manned (e.restart t) t := by
  have hT := timeline_restart ht
  refine ⟨?_, ?_, ?_, ?_, ?_, ?_, fun k r hwork => absurd hwork (h.unrefetched k r)⟩
  · rw [hT]
    exact h.pump
  · rw [hT]
    exact h.runtime
  · rw [hT]
    exact nofun
  · rw [hT]
    intro k hk
    obtain ⟨s, hjob⟩ := h.pumping k hk
    exact ⟨s, h.idle_restart.jobs k _ hjob⟩
  · rw [hT]
    exact nofun
  · rw [hT]
    intro k s hk
    rw [work_restart] at hk
    split at hk
    · cases hk
    · exact h.pumps k s hk

theorem Manned.restartActive (h : Manned e t) (hactive : (e.timeline t).phase.isActive = true) :
    Manned (e.restartActive t) t := by
  have ht := lt_of_active hactive
  have hrestart := h.restart ht
  have hphase := phase_restart e t
  have hT : (e.restartActive t).timeline t =
      { (e.restart t).timeline t with phase := .invalidated } :=
    timeline_modifyTimeline_self ((within_restart e t).size ▸ ht) _
  refine ⟨?_, ?_, ?_, ?_, ?_, ?_, ?_⟩
  · rw [hT]
    exact hrestart.pump.trans (hphase ▸ hactive)
  · rw [hT]
    exact fun _ => hrestart.runtime (hphase ▸ hactive)
  · rw [hT]
    exact fun _ => rfl
  · rw [hT]
    exact hrestart.pumping
  · rw [hT]
    exact hrestart.refetching
  · rw [hT]
    exact hrestart.pumps
  · rw [hT]
    exact hrestart.refetches

theorem Manned.idle_invalidateQuietly (h : Manned e t) :
    Idle (some t) e (e.invalidateQuietly t).2 := by
  rw [invalidateQuietly_eq]
  dsimp only
  split
  · rename_i hactive
    exact (h.idle_restart.trans (idle_change ..)).trans (h.restartActive hactive).idle_startRefetch
  · exact h.idle_restart

theorem staffs_invalidateQuietly (e : Engine) (t : TimelineId) :
    Staffs e (e.invalidateQuietly t).2 := by
  intro hs
  have h := hs t
  refine h.idle_invalidateQuietly.staffed hs ?_
  rw [invalidateQuietly_eq]
  dsimp only
  split
  · rename_i hactive
    refine (h.restartActive hactive).startRefetch ?_
    rw [timeline_restartActive (lt_of_active hactive) hactive, isActive_renewed, hactive]
  · rename_i hinactive
    by_cases ht : t < e.timelines.length
    · refine ⟨h.restart ht, fun k r hwork => absurd hwork (h.unrefetched k r), ?_⟩
      rw [phase_restart]
      intro hphase
      rw [hphase] at hinactive
      exact absurd rfl hinactive
    · rw [restart_of_le (Nat.le_of_not_lt ht)]
      exact h

theorem staffs_invalidateNow (e : Engine) (t : TimelineId) : Staffs e (e.invalidateNow t) :=
  (staffs_invalidateQuietly e t).trans (idle_emit ..).staffs

theorem staffs_refresh (e : Engine) (t : TimelineId) : Staffs e (e.refresh t) := by
  unfold refresh
  split
  · exact staffs_invalidateNow e t
  · exact .refl e

theorem staffs_onInvalidated (e : Engine) (t : TimelineId) (revision : Nat) :
    Staffs e (e.onInvalidated t revision) := by
  unfold onInvalidated
  dsimp only
  split
  · exact .refl e
  · split
    · split
      · split
        · exact (idle_modifyTimeline e ⟨rfl, rfl, rfl, rfl, rfl⟩).staffs
        · exact .refl e
      · exact staffs_invalidateNow e t
    · exact staffs_invalidateNow e t

theorem staffs_offer (e : Engine) (t : TimelineId) (item : Item) : Staffs e (e.offer t item).2 := by
  have hcatch : Staffs e (e.catchUp t) := by
    unfold catchUp
    split
    · refine ((staffs_invalidateQuietly e t).trans ?_).trans (idle_emit ..).staffs
      exact (idle_modifyTimeline _ ⟨rfl, rfl, rfl, rfl, rfl⟩).staffs
    · exact .refl e
  rw [offer_eq]
  split
  · exact .refl e
  · split
    · exact hcatch.trans (idle_modifyTimeline _ (sameWork_receive ..)).staffs
    · exact hcatch

theorem staffs_recoverLag (e : Engine) (t : TimelineId) : Staffs e (e.recoverLag t) := by
  unfold recoverLag
  split
  · rename_i hactive
    exact fun hs => (hs t).idle_startRefetch.staffed hs ((hs t).startRefetch hactive)
  · exact .refl e

-- A timeline is stopped, and with it all that it does.

theorem work_endWork (e : Engine) (t : TimelineId) (k : TaskId) :
    (e.endWork t).work k =
      if (e.timeline t).pump = some k ∨ (e.timeline t).refetch = some k then none
      else e.work k := by
  have hdrop : (e.endWork t).work k = (e.abortWork t).work k := by
    refine work_congr ?_ k
    unfold endWork
    cases (e.timeline t).subscription <;> rfl
  rw [hdrop, abortWork, work_abort?, work_abort?]
  by_cases hpump : (e.timeline t).pump = some k <;>
    by_cases hrefetch : (e.timeline t).refetch = some k <;> simp [hpump, hrefetch]

theorem Manned.idle_endWork (h : Manned e t) : Idle (some t) e (e.endWork t) := by
  have hpump : Idle (some t) e (e.abort? (e.timeline t).pump) := by
    refine idle_abort? fun k hk => ?_
    obtain ⟨s, hjob⟩ := h.pumping k hk
    exact ⟨_, hjob, rfl⟩
  have hrefetch : Idle (some t) (e.abort? (e.timeline t).pump) (e.abortWork t) := by
    refine idle_abort? fun k hk => ?_
    obtain ⟨r, hjob⟩ := h.refetching k hk
    exact ⟨_, hpump.jobs k _ hjob, rfl⟩
  exact (hpump.trans hrefetch).trans (idle_dropSubscription ..).of_none

theorem staffs_endWork (ht : t < e.timelines.length) {f : Timeline → Timeline}
    (hpump : (f (e.timeline t)).pump = none) (hrefetch : (f (e.timeline t)).refetch = none)
    (hinactive : (f (e.timeline t)).phase.isActive = false) :
    Staffs e ((e.endWork t).modifyTimeline t f) := by
  intro hs
  have h := hs t
  have hT : ((e.endWork t).modifyTimeline t f).timeline t = f (e.timeline t) := by
    rw [timeline_modifyTimeline_self ((apart_endWork e t).size ▸ ht), timeline_endWork]
  have hnone (k : TaskId) (job : Job) (hjob : job.timeline = t) :
      ((e.endWork t).modifyTimeline t f).work k ≠ some job := by
    rw [work_modifyTimeline, work_endWork]
    split
    · exact nofun
    · rename_i hold
      intro hwork
      cases job with
      | pump t' s =>
          obtain rfl : t' = t := hjob
          exact hold (.inl (h.pumps k s hwork))
      | refetch t' r =>
          obtain rfl : t' = t := hjob
          exact hold (.inr (h.refetches k r hwork))
  refine (h.idle_endWork.trans (idle_change ..)).staffed hs ⟨⟨?_, ?_, ?_, ?_, ?_, ?_, ?_⟩, ?_, ?_⟩
  · rw [hT, hpump, hinactive]
    rfl
  · rw [hT, hinactive]
    exact nofun
  · rw [hT, hrefetch]
    exact nofun
  · rw [hT, hpump]
    exact nofun
  · rw [hT, hrefetch]
    exact nofun
  · exact fun k s hwork => absurd hwork (hnone k _ rfl)
  · exact fun k r hwork => absurd hwork (hnone k _ rfl)
  · exact fun k r hwork => absurd hwork (hnone k _ rfl)
  · rw [hT]
    intro hphase
    rw [hphase] at hinactive
    cases hinactive

theorem staffs_teardown (ht : t < e.timelines.length) : Staffs e (e.teardown t).2 := by
  rw [teardown_eq]
  exact staffs_endWork ht rfl rfl rfl

theorem staffs_release (e : Engine) (target : Target) : Staffs e (e.release target) := by
  cases target with
  | observer o =>
      have hsame : Idle none e (e.release (.observer o)) := idle_of_same rfl rfl
      exact hsame.staffs
  | timeline t =>
      have hdrop : Idle none e (e.dropHold t) :=
        idle_modifyTimeline e ⟨rfl, rfl, rfl, rfl, rfl⟩
      rw [release_eq]
      split
      · rename_i hlast
        have ht : t < (e.dropHold t).timelines.length := by
          simpa [dropHold, modifyTimeline] using isLastHold_lt hlast
        exact (hdrop.staffs.trans (staffs_teardown ht)).trans (idle_push ..).staffs
      · exact hdrop.staffs

theorem staffs_close (e : Engine) (o : OperationId) (status : Status) :
    Staffs e (e.close o status) := by
  unfold close
  split
  · exact (idle_setStatus ..).staffs.trans (staffs_release _ _)
  · exact .refl e

theorem staffs_deactivate (e : Engine) (t : TimelineId) : Staffs e (e.deactivate t) := by
  unfold deactivate
  split
  · rename_i hactive
    exact (staffs_teardown (lt_of_active hactive)).trans (idle_push ..).staffs
  · exact .refl e

theorem staffs_dispose (ht : t < e.timelines.length) : Staffs e (e.dispose t) := by
  rw [dispose_eq]
  split
  · exact .refl e
  · exact (staffs_endWork ht rfl rfl rfl).trans (idle_push ..).staffs

theorem staffs_invalidate (e : Engine) (t : TimelineId) : Staffs e (e.invalidate t) := by
  unfold invalidate
  split
  · exact .refl e
  · exact staffs_invalidateNow e t

theorem staffs_setQuery (e : Engine) (t : TimelineId) (query : Option QueryId) :
    Staffs e (e.setQuery t query).2 := by
  rw [setQuery_eq]
  split
  · exact .refl e
  · exact ((idle_leaveQuery e t query).staffs.trans (staffs_invalidateNow _ t)).trans
      (idle_push ..).staffs

theorem staffs_attach (e : Engine) (t : TimelineId) (q : QueryId) (epoch : Nat)
    (purpose : Purpose) : Staffs e (e.attach t q epoch purpose) := by
  rw [attach_eq]
  split
  · cases purpose <;> exact (idle_push ..).staffs
  · cases purpose with
    | swap => exact (idle_enrol e t q).staffs.trans (staffs_refresh _ t)
    | activation o generation => exact ((idle_enrol e t q).trans (idle_prepare ..)).staffs

theorem staffs_perform (e : Engine) (frame : Frame) : Staffs e (e.perform frame) := by
  cases frame with
  | activate q => exact (idle_addActivation e q).staffs
  | deactivate q => exact (idle_removeActivation e q).staffs
  | announce q revision => exact (idle_announce e q revision).staffs
  | rounds q => exact (idle_continueRounds e q).staffs
  | call target revision =>
      cases target with
      | timeline t => exact staffs_onInvalidated e t revision
      | observer o => exact (idle_push ..).staffs
  | observer o revision => exact .refl e
  | release target => exact staffs_release e target
  | attach t q epoch purpose => exact staffs_attach e t q epoch purpose
  | emit t delta => exact (idle_emit e t delta).staffs
  | finish o result => exact staffs_close e o _

-- Operations.

-- An operation whose items are merged may have made its timeline active.
theorem staffs_merged {kind : OperationKind} {phase : Phase}
    (hactive : kind = .activation → (e.timeline t).phase.isActive = true)
    (hphase : kind = .page ∧ phase = (e.timeline t).phase ∨ kind = .activation ∧ phase = .active)
    (items : List Item) :
    Staffs e (e.modifyTimeline t fun T => (({ T with phase } : Timeline).absorb items).1) := by
  rcases hphase with ⟨-, rfl⟩ | ⟨rfl, rfl⟩
  · exact (idle_modifyTimeline e (sameWork_absorb (e.timeline t) items)).staffs
  · intro hs
    have h := hs t
    have hactive := hactive rfl
    obtain ⟨events, habsorb⟩ := absorb_eq { e.timeline t with phase := .active } items
    have hT : (e.modifyTimeline t fun T =>
        (({ T with phase := .active } : Timeline).absorb items).1).timeline t = _ :=
      (timeline_modifyTimeline_self (lt_of_active hactive) _).trans habsorb
    refine (idle_change e t _).staffed hs ⟨⟨?_, ?_, ?_, ?_, ?_, ?_, ?_⟩, ?_, ?_⟩ <;> rw [hT]
    · exact h.pump.trans hactive
    · exact fun _ => h.runtime hactive
    · exact fun _ => rfl
    · exact h.pumping
    · exact h.refetching
    · exact h.pumps
    · exact h.refetches
    · exact h.current
    · exact nofun

theorem staffs_complete (hw : Wired e) (o : OperationId)
    (result : Except StorageError (List Item)) : Staffs e (e.complete o result) := by
  cases completes e o result with
  | unasked hnone heq =>
      rw [heq]
      exact .refl e
  | ended hop hwhy heq =>
      rw [heq]
      exact staffs_close e o _
  | @merged t kind r items phase outcome hop hg hphase heq =>
      have hactive (hkind : kind = .activation) : (e.timeline t).phase.isActive = true :=
        ((hw.bound t).begun o r (hkind ▸ hop)).2 hg
      rw [heq]
      exact (staffs_merged hactive hphase items).trans (staffs_close _ o _)
  | @rolledBack t r cause hop hg heq =>
      have ht : t < (e.setStatus o .running).timelines.length :=
        lt_of_active (e := e) (((hw.bound t).begun o r hop).2 hg)
      rw [heq]
      exact ((idle_setStatus e o .running).staffs.trans (staffs_teardown ht)).trans
        (idle_push ..).staffs

theorem staffs_cancel (e : Engine) (o : OperationId) : Staffs e (e.cancel o) := by
  unfold cancel
  split
  · exact staffs_close e o _
  · exact .refl e

theorem staffs_launch (hinactive : (e.timeline t).phase = .inactive) (ht : t < e.timelines.length) :
    Staffs e (e.launch t) := by
  intro hs
  have h := hs t
  have hT := timeline_launch ht
  have hwork (k : TaskId) : (e.launch t).work k =
      if k = e.tasks.length then some (.pump t (e.timeline t).stream) else e.work k :=
    work_spawn e _ k
  have hjobs : (e.launch t).jobs = e.jobs ++ [.pump t (e.timeline t).stream] := jobs_spawn e _
  have hpump : (e.timeline t).pump = none := by
    rw [← Option.not_isSome_iff_eq_none, h.pump, hinactive]
    exact Bool.false_ne_true
  have hrefetch : (e.timeline t).refetch = none := by
    rw [← Option.not_isSome_iff_eq_none]
    intro hsome
    have hactive := h.refetch hsome
    rw [hinactive] at hactive
    cases hactive
  have hidle : Idle (some t) e (e.launch t) := by
    have hstarted : Idle (some t) e (e.spawn (.pump t (e.timeline t).stream)).2 :=
      idle_spawn e (.pump t (e.timeline t).stream)
    have hheard := idle_modifyChannel (e.spawn (.pump t (e.timeline t).stream)).2
      (e.timeline t).stream (·.subscribe e.tasks.length)
    exact (hstarted.trans hheard.of_none).trans (idle_change ..)
  have hunrefetched (k : TaskId) (r : FetchRequest) :
      (e.launch t).work k ≠ some (.refetch t r) := by
    rw [hwork]
    split
    · intro hk
      cases hk
    · intro hk
      have hsome := h.refetches k r hk
      rw [hrefetch] at hsome
      cases hsome
  refine hidle.staffed hs ⟨⟨?_, ?_, ?_, ?_, ?_, ?_, ?_⟩, ?_, ?_⟩
  · rw [hT]
    rfl
  · rw [hT]
    exact fun _ => rfl
  · rw [hT]
    exact fun _ => rfl
  · rw [hT]
    intro k hk
    obtain rfl := Option.some.inj hk
    refine ⟨(e.timeline t).stream, ?_⟩
    rw [hjobs]
    simp [jobs]
  · rw [hT]
    intro k hk
    have hk : (e.timeline t).refetch = some k := hk
    rw [hrefetch] at hk
    cases hk
  · rw [hT]
    intro k s hk
    rw [hwork] at hk
    split at hk
    · rename_i hnew
      rw [hnew]
    · have hsome := h.pumps k s hk
      rw [hpump] at hsome
      cases hsome
  · exact fun k r hk => absurd hk (hunrefetched k r)
  · exact fun k r hk => absurd hk (hunrefetched k r)
  · rw [hT]
    intro hphase
    cases hphase

theorem staffs_startActivation (ht : t < e.timelines.length) (hasRuntime : Bool) :
    Staffs e (e.startActivation t hasRuntime).2 := by
  have hadd := idle_addOperation e t .activation
  rcases startActivation_cases e t hasRuntime with ⟨hinactive, -, heq⟩ | ⟨-, result, heq⟩
  · have hsize := (calm_addOperation Nothing e t .activation).size
    have hphase := (hadd.timeline t nofun).phase
    rw [heq]
    refine hadd.staffs.trans ?_
    have hlaunch := staffs_launch (hphase.trans hinactive) (hsize ▸ ht)
    unfold launched
    split
    · exact hlaunch.trans (idle_push ..).staffs
    · exact hlaunch.trans (idle_prepare ..).staffs
  · rw [heq]
    exact hadd.staffs.trans (staffs_close _ _ _)

theorem staffs_startPage (e : Engine) (t : TimelineId) (before : Option ItemId) (limit : Nat) :
    Staffs e (e.startPage t before limit).2 := by
  have hadd := idle_addOperation e t .page
  unfold startPage
  dsimp only
  split
  · exact hadd.staffs.trans (staffs_close _ _ _)
  · exact (hadd.trans (idle_setStatus ..)).staffs

-- Tasks.

-- A refetch that is live is that of an active timeline, which somebody holds.
theorem Staffed.alive (h : Staffed e t) (hw : Wired e) {r : FetchRequest}
    (hwork : e.work k = some (.refetch t r)) : e.isAlive (.timeline t) = true := by
  exact hw.alive_of_active (h.refetch (by rw [h.refetches k r hwork]; rfl))

-- A pump may come to its end.
theorem staffs_finishPump {s : StreamId} (hjob : e.jobs[k]? = some (.pump t s)) :
    Staffs e (e.finishTask k) := by
  intro hs
  have h := hs t
  have hb := background_finishTask e k
  have hT := hb.timeline t
  have hwork {k' : TaskId} {job : Job} (hk : (e.finishTask k).work k' = some job) :
      e.work k' = some job := by
    rw [work_finishTask] at hk
    split at hk
    · cases hk
    · exact hk
  have hidle : Idle (some t) e (e.finishTask k) := idle_finishTask hjob
  refine hidle.staffed hs ⟨⟨?_, ?_, ?_, ?_, ?_, ?_, ?_⟩, ?_, ?_⟩
  · rw [hT]
    exact h.pump
  · rw [hT]
    exact h.runtime
  · rw [hT]
    exact h.refetch
  · rw [hT, hb.jobs]
    exact h.pumping
  · rw [hT, hb.jobs]
    exact h.refetching
  · rw [hT]
    exact fun k' s hk => h.pumps k' s (hwork hk)
  · rw [hT]
    exact fun k' r hk => h.refetches k' r (hwork hk)
  · rw [hT]
    exact fun k' r hk => h.current k' r (hwork hk)
  · rw [hT]
    intro hphase
    obtain ⟨k', r, hk⟩ := h.refilled hphase
    refine ⟨k', r, ?_⟩
    rw [work_finishTask, if_neg]
    · exact hk
    · rintro rfl
      cases Option.some.inj (hjob.symm.trans (job_of_work hk))

theorem completeRefetch_eq {generation : Nat} (hg : generation = (e.timeline t).generation)
    (result : Except StorageError (List Item)) :
    ∃ events buffer, e.completeRefetch t generation result =
      e.modifyTimeline t fun _ => { replenished (e.timeline t) with events, buffer } := by
  unfold completeRefetch
  rw [if_neg (not_not_intro hg.symm)]
  dsimp only
  cases result with
  | ok items =>
      obtain ⟨events, habsorb⟩ := absorb_eq (replenished (e.timeline t)) items
      refine ⟨events, ((e.timeline t).buffer.merge items).1, ?_⟩
      dsimp only
      rw [modifyTimeline_modifyTimeline]
      exact modifyTimeline_congr habsorb
  | error cause =>
      refine ⟨.refetchFailed generation cause.message :: (e.timeline t).events,
        (e.timeline t).buffer, ?_⟩
      dsimp only
      rw [modifyTimeline_modifyTimeline]
      exact modifyTimeline_congr rfl

-- A timeline that has been refetched is active.
theorem staffs_completeRefetch {r : FetchRequest}
    (hwork : e.work k = some (.refetch t r)) (result : Except StorageError (List Item)) :
    Staffs e ((e.finishTask k).completeRefetch t r.generation result) := by
  intro hs
  have h := hs t
  have hb := background_finishTask e k
  have hk := h.refetches k r hwork
  have hactive := h.refetch (by rw [hk]; rfl)
  have ht : t < (e.finishTask k).timelines.length := hb.timelines ▸ lt_of_active hactive
  obtain ⟨events, buffer, heq⟩ := completeRefetch_eq (e := e.finishTask k)
    ((hb.timeline t).symm ▸ h.current k r hwork) result
  rw [hb.timeline] at heq
  have hT : ((e.finishTask k).completeRefetch t r.generation result).timeline t =
      { replenished (e.timeline t) with events, buffer } := by
    rw [heq, timeline_modifyTimeline_self ht]
  have hidle : Idle (some t) e ((e.finishTask k).completeRefetch t r.generation result) := by
    rw [heq]
    exact (idle_finishTask (job_of_work hwork)).trans (idle_change ..)
  have hnow (k' : TaskId) :
      ((e.finishTask k).completeRefetch t r.generation result).work k' =
        if k = k' then none else e.work k' := by
    rw [heq, work_modifyTimeline, work_finishTask]
  have hunrefetched (k' : TaskId) (r' : FetchRequest) :
      ((e.finishTask k).completeRefetch t r.generation result).work k' ≠ some (.refetch t r') := by
    rw [hnow]
    split
    · exact nofun
    · rename_i hne
      intro hk'
      exact hne (Option.some.inj (hk.symm.trans (h.refetches k' r' hk')))
  have hphase : (replenished (e.timeline t)).phase.isActive = true := by
    unfold replenished
    dsimp only
    split
    · rfl
    · exact hactive
  refine hidle.staffed hs ⟨⟨?_, ?_, ?_, ?_, ?_, ?_, ?_⟩, ?_, ?_⟩
  · rw [hT]
    exact (h.pump.trans hactive).trans hphase.symm
  · rw [hT]
    exact fun _ => h.runtime hactive
  · rw [hT]
    exact nofun
  · rw [hT]
    intro k' hk'
    obtain ⟨s, hjob⟩ := h.pumping k' hk'
    exact ⟨s, hidle.jobs k' _ hjob⟩
  · rw [hT]
    exact nofun
  · rw [hT]
    intro k' s hk'
    rw [hnow] at hk'
    split at hk'
    · cases hk'
    · exact h.pumps k' s hk'
  · exact fun k' r' hk' => absurd hk' (hunrefetched k' r')
  · exact fun k' r' hk' => absurd hk' (hunrefetched k' r')
  · rw [hT]
    intro hinvalidated
    unfold replenished at hinvalidated
    dsimp only at hinvalidated
    split at hinvalidated
    · cases hinvalidated
    · rename_i hnot
      exact absurd hinvalidated hnot

theorem work_of_awaits (h : e.awaits (.task k) = true) :
    ∃ t r, e.work k = some (.refetch t r) ∧ e.tasks[k]? = some ⟨.refetch t r, true, false, false⟩ := by
  unfold awaits at h
  dsimp only at h
  split at h
  · rename_i t r htask
    refine ⟨t, r, ?_, htask⟩
    unfold work
    rw [htask]
    rfl
  · cases h

theorem staffs_completeTask (hw : Wired e) (h : e.awaits (.task k) = true)
    (result : Except StorageError (List Item)) : Staffs e (e.completeTask k result) := by
  obtain ⟨t, r, hwork, htask⟩ := work_of_awaits h
  intro hs
  have halive : (e.finishTask k).isAlive (.timeline t) = true := by
    have halive := (hs t).alive hw hwork
    unfold isAlive at halive ⊢
    rwa [(background_finishTask e k).timelines]
  have heq : e.completeTask k result = (e.finishTask k).completeRefetch t r.generation result := by
    unfold completeTask
    rw [htask]
    exact if_pos halive
  rw [heq]
  exact staffs_completeRefetch hwork result hs

theorem staffs_runPump {s : StreamId} (hjob : e.jobs[k]? = some (.pump t s)) :
    Staffs e (runPump k t s 1 e) := by
  have hheard := idle_modifyChannel e s fun _ => ((e.channel s).receive k).2
  simp only [runPump]
  refine hheard.staffs.trans ?_
  have hjob' := hheard.jobs k _ hjob
  generalize e.modifyChannel s (fun _ => ((e.channel s).receive k).2) = e' at hjob' ⊢
  have hfinish := staffs_finishPump hjob'
  split
  · exact .refl e'
  · split
    · exact staffs_offer e' t _
    · exact hfinish
  · split
    · exact staffs_recoverLag e' t
    · exact hfinish
  · exact hfinish

-- A task that is not a pump starts, or goes away.
theorem staffs_poll (hw : Wired e)
    (h : ∀ t s started, e.tasks[k]? ≠ some ⟨.pump t s, started, false, false⟩) :
    Staffs e (e.poll k).2 := by
  unfold poll
  split
  · exact .refl e
  · rename_i job started aborted finished htask
    cases finished with
    | true => exact .refl e
    | false =>
        cases aborted with
        | true =>
            refine (idle_finishTask_of_none ?_).staffs
            unfold work
            rw [htask]
            rfl
        | false =>
            cases job with
            | pump t s => exact absurd htask (h t s started)
            | refetch t r =>
                simp only [Bool.false_eq_true, if_false]
                split
                · exact (idle_start e k).staffs
                · rename_i hdead
                  intro hs
                  have hwork : e.work k = some (.refetch t r) := by
                    unfold work
                    rw [htask]
                    rfl
                  rw [(hs t).alive hw hwork, Bool.or_true] at hdead
                  exact absurd rfl hdead

theorem staffs_turn (hw : Wired e) (k : TaskId) : Staffs e (e.turn k) := by
  rcases turn_cases e k with ⟨t, s, started, htask, heq⟩ | ⟨hpump, heq⟩
  · rw [heq]
    exact staffs_runPump (by simp [jobs, htask])
  · rw [heq]
    exact staffs_poll hw hpump

-- A timeline that is made does nothing.
theorem staffs_addTimeline (e : Engine) (config : Config) (storage : StorageId) (stream : StreamId)
    (query : Option QueryId) (hasSink : Bool) :
    Staffs e (e.addTimeline config storage stream query hasSink).2 := by
  unfold addTimeline
  dsimp only
  generalize hnew : ({ config, storage, stream, query, hasSink, buffer := .empty config.maxItems } :
    Timeline) = new
  refine Staffs.trans (fun hs => ?_) (idle_recompile _ _).staffs
  have h := hs e.timelines.length
  have hT : e.timeline e.timelines.length = default := timeline_of_le (Nat.le_refl _)
  have hmade : SameWork default new := hnew ▸ ⟨rfl, rfl, rfl, rfl, rfl⟩
  refine fun t => (hs t).idle (d := none) (idle_of_tasks rfl fun t' _ => ?_) nofun
  rw [timeline_append]
  split
  · rename_i ht
    rw [ht, hT]
    exact hmade
  · exact .refl _

theorem staffs_step (hallows : e.allows .step = true) : Staffs e (e.after .step) := by
  obtain ⟨frame, rest, -, -, hafter⟩ := after_step hallows
  have hpop : Idle none e { e with stack := rest } := idle_of_same rfl rfl
  rw [hafter]
  exact hpop.staffs.trans (staffs_perform _ frame)

-- What one move keeps.
theorem staffs_after (hw : Wired e) (hallows : e.allows m = true) : Staffs e (e.after m) := by
  cases m with
  | step => exact staffs_step hallows
  | leaveObserver =>
      change Staffs e e.leaveObserver
      unfold leaveObserver
      split
      · rename_i rest _
        have hpop : Idle none e { e with stack := rest } := idle_of_same rfl rfl
        exact hpop.staffs
      · exact .refl e
  | addQuery expr source =>
      have hsame : Idle none e (e.after (.addQuery expr source)) := idle_of_same rfl rfl
      exact hsame.staffs
  | addChannel capacity =>
      have hsame : Idle none e (e.after (.addChannel capacity)) := idle_of_same rfl rfl
      exact hsame.staffs
  | addTimeline config storage stream query hasSink => exact staffs_addTimeline e _ _ _ _ _
  | setExpression q expr => exact ((idle_modifyQuery e q _).trans (idle_push ..)).staffs
  | setSource q text => exact ((idle_modifyQuery e q _).trans (idle_push ..)).staffs
  | activateQuery q => exact (idle_push e _).staffs
  | deactivateQuery q => exact (idle_push e _).staffs
  | compile q => exact (idle_modifyQuery e q _).staffs
  | listen q =>
      have hobserver : Idle none e { e with observers := e.observers ++ [1] } := idle_of_same rfl rfl
      exact (hobserver.trans (idle_modifyQuery _ q _)).staffs
  | unsubscribe q id => exact (idle_dropSubscription e (some (q, id))).staffs
  | releaseObserver o => exact staffs_release e (.observer o)
  | retain t => exact (idle_retain e (.timeline t)).staffs
  | drop t => exact staffs_release e (.timeline t)
  | deactivate t => exact (idle_hold e t).staffs.trans (staffs_deactivate _ t)
  | invalidate t => exact (idle_hold e t).staffs.trans (staffs_invalidate _ t)
  | dispose t =>
      have ht := isAlive_of_allows hallows
      exact (idle_hold e t).staffs.trans (staffs_dispose (size_hold e t ▸ ht))
  | setQuery t query => exact (idle_hold e t).staffs.trans (staffs_setQuery _ t query)
  | accepts t item => exact (idle_currentFilter e t).staffs
  | takeUnread t => exact (idle_modifyTimeline e ⟨rfl, rfl, rfl, rfl, rfl⟩).staffs
  | offer t item => exact staffs_offer e t item
  | publish s item => exact (idle_publish e s item).staffs
  | closeStream s => exact (idle_closeStream e s).staffs
  | startActivation t hasRuntime => exact staffs_startActivation (isAlive_of_allows hallows) _
  | startPage t before limit => exact staffs_startPage e t before limit
  | answer asker result =>
      cases asker with
      | operation o => exact staffs_complete hw o result
      | task k => exact staffs_completeTask hw (Bool.and_eq_true_iff.mp hallows).2 result
  | cancel o => exact staffs_cancel e o
  | wake k => exact (idle_of_same (tasks_wake e k) (background_wake e k).timelines).staffs
  | nextTask => exact (idle_nextTask e).staffs
  | turn k => exact staffs_turn hw k

theorem staffed_init (t : TimelineId) : Staffed {} t where
  pump := rfl
  runtime := nofun
  refetch := nofun
  pumping := nofun
  refetching := nofun
  pumps := nofun
  refetches := nofun
  current := nofun
  refilled := nofun

-- What every run keeps.
theorem Follows.staffed {rule : Engine → Move → Prop} {moves : List Move}
    (h : e.Follows rule moves) (hs : Sound e) (hw : Wired e) (hstaffed : ∀ t, Staffed e t) :
    ∀ t, Staffed (e.replay moves) t := by
  induction moves generalizing e with
  | nil => exact hstaffed
  | cons m moves ih =>
      exact ih h.2.2 (hs.after h.1) (comes_after hs hw h.1).1 (staffs_after hw h.1 hstaffed)

end FilteredFeed.Engine
