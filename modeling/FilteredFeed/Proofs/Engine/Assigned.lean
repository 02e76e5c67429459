import FilteredFeed.Proofs.Engine.Leaves

namespace FilteredFeed.Engine

open FilteredFeed.Feed FilteredFeed.Filter FilteredFeed.Listener FilteredFeed.Timeline
open FilteredFeed.Scenario (Asker)

variable [Patterns]
variable {e e' e'' : Engine} {t : TimelineId} {k k' : TaskId} {m : Move}

-- Whether a task has made its request.
def hasBegun (e : Engine) (k : TaskId) : Bool := e.tasks[k]?.any Task.started

-- No task makes its request. What is to fill a buffer again has not made it either, and asks for the
-- newest items, as many as the timeline is set to begin with.
structure Assigns (e e' : Engine) : Prop where
  begun : ∀ k, e'.hasBegun k = e.hasBegun k
  config : ∀ t, (e'.timeline t).config = (e.timeline t).config
  jobs : ∀ (k : TaskId) t r, e'.jobs[k]? = some (.refetch t r) → e.jobs[k]? = some (.refetch t r) ∨
    e.hasBegun k = false ∧ r.before = none ∧ r.limit = (e.timeline t).config.backfillCount

theorem Assigns.refl (e : Engine) : Assigns e e := ⟨fun _ => rfl, fun _ => rfl, fun _ _ _ => .inl⟩

theorem Assigns.trans (h : Assigns e e') (h' : Assigns e' e'') : Assigns e e'' where
  begun k := (h'.begun k).trans (h.begun k)
  config t := (h'.config t).trans (h.config t)
  jobs k t r hjob := by
    rcases h'.jobs k t r hjob with hjob | ⟨hbegun, hbefore, hlimit⟩
    · exact h.jobs k t r hjob
    · exact .inr ⟨h.begun k ▸ hbegun, hbefore, h.config t ▸ hlimit⟩

theorem assigns_of_tasks (htasks : e'.tasks = e.tasks)
    (hconfig : ∀ t, (e'.timeline t).config = (e.timeline t).config) : Assigns e e' := by
  refine ⟨fun k => ?_, hconfig, fun k t r hjob => ?_⟩
  · unfold hasBegun
    rw [htasks]
  · rw [jobs_congr htasks] at hjob
    exact .inl hjob

theorem assigns_of_same (htasks : e'.tasks = e.tasks) (htimelines : e'.timelines = e.timelines) :
    Assigns e e' :=
  assigns_of_tasks htasks fun t => congrArg Timeline.config (timeline_congr htimelines t)

theorem assigns_modifyTimeline (e : Engine) {f : Timeline → Timeline}
    (hf : (f (e.timeline t)).config = (e.timeline t).config) : Assigns e (e.modifyTimeline t f) := by
  refine assigns_of_tasks rfl fun t' => ?_
  rcases timeline_modifyTimeline e t t' f with hT | ⟨rfl, hT⟩
  · rw [hT]
  · rw [hT, hf]

theorem assigns_modifyQuery (e : Engine) (q : QueryId) (f : Query Target → Query Target) :
    Assigns e (e.modifyQuery q f) := assigns_of_same rfl rfl

theorem assigns_push (e : Engine) (frames : List Frame) : Assigns e (e.push frames) :=
  assigns_of_same rfl rfl

theorem assigns_setStatus (e : Engine) (o : OperationId) (status : Status) :
    Assigns e (e.setStatus o status) := assigns_of_same rfl rfl

-- Tasks come and go.

theorem hasBegun_modifyTask (e : Engine) (k k' : TaskId) {f : Task → Task}
    (hf : ∀ task, (f task).started = task.started) :
    (e.modifyTask k f).hasBegun k' = e.hasBegun k' := by
  unfold hasBegun modifyTask
  rw [List.getElem?_modify]
  cases e.tasks[k']? with
  | none => rfl
  | some task =>
      by_cases hk : k = k'
      · simp [hk, hf]
      · simp [hk]

theorem hasBegun_congr (h : e'.tasks = e.tasks) (k : TaskId) : e'.hasBegun k = e.hasBegun k := by
  unfold hasBegun
  rw [h]

theorem hasBegun_finishTask (e : Engine) (k k' : TaskId) :
    (e.finishTask k).hasBegun k' = e.hasBegun k' := by
  unfold finishTask
  refine (hasBegun_modifyTask (f := fun task => { task with finished := true }) _ k k'
    fun _ => rfl).trans ?_
  split <;> rfl

theorem Background.assigns (hb : Background e e') (hbegun : ∀ k, e'.hasBegun k = e.hasBegun k) :
    Assigns e e' :=
  ⟨hbegun, fun t => congrArg Timeline.config (hb.timeline t), fun _ _ _ hjob => .inl (hb.jobs ▸ hjob)⟩

theorem assigns_abort? (e : Engine) (handle : Option TaskId) : Assigns e (e.abort? handle) := by
  refine (background_abort? e handle).assigns fun k => ?_
  cases handle with
  | none => rfl
  | some k' =>
      exact (hasBegun_congr (tasks_wake _ k') k).trans (hasBegun_modifyTask e k' k fun _ => rfl)

theorem hasBegun_spawn (e : Engine) (job : Job) (k : TaskId) :
    (e.spawn job).2.hasBegun k = e.hasBegun k := by
  unfold hasBegun spawn
  dsimp only
  rcases Nat.lt_or_ge k e.tasks.length with hlt | hge
  · rw [List.getElem?_append_left hlt]
  · rw [List.getElem?_append_right hge, List.getElem?_eq_none hge]
    cases k - e.tasks.length with
    | zero => rfl
    | succ n => rfl

theorem hasBegun_of_le (h : e.tasks.length ≤ k) : e.hasBegun k = false := by
  simp [hasBegun, List.getElem?_eq_none h]

theorem assigns_spawn (e : Engine) {job : Job} (h : ∀ t r, job = .refetch t r →
    r.before = none ∧ r.limit = (e.timeline t).config.backfillCount) :
    Assigns e (e.spawn job).2 := by
  refine ⟨hasBegun_spawn e job, fun _ => rfl, fun k t r hjob => ?_⟩
  rw [jobs_spawn] at hjob
  rcases Nat.lt_or_ge k e.jobs.length with hlt | hge
  · rw [List.getElem?_append_left hlt] at hjob
    exact .inl hjob
  · rw [List.getElem?_append_right hge] at hjob
    have hle : e.tasks.length ≤ k := by simpa [Engine.jobs] using hge
    exact .inr ⟨hasBegun_of_le hle, h t r (List.mem_singleton.mp (List.mem_of_getElem? hjob)).symm⟩

theorem assigns_startRefetch (e : Engine) (t : TimelineId) : Assigns e (e.startRefetch t) := by
  by_cases hruntime : (e.timeline t).hasRuntime = true
  · rw [startRefetch_eq hruntime]
    have hb := background_abort? e (e.timeline t).refetch
    refine ((assigns_abort? e _).trans (assigns_spawn _ ?_)).trans (assigns_modifyTimeline _ rfl)
    rintro t' r heq
    obtain ⟨rfl, rfl⟩ := Job.refetch.inj heq
    rw [hb.timeline]
    exact ⟨rfl, rfl⟩
  · unfold startRefetch
    rw [if_neg hruntime]
    exact .refl e

-- What a timeline does in one go.

theorem assigns_recompile (e : Engine) (t : TimelineId) : Assigns e (e.recompile t) := by
  unfold recompile
  split
  · exact (assigns_modifyQuery ..).trans (assigns_modifyTimeline _ rfl)
  · exact assigns_modifyTimeline e rfl

theorem assigns_emit (e : Engine) (t : TimelineId) (delta : Delta) : Assigns e (e.emit t delta) := by
  refine assigns_modifyTimeline e ?_
  obtain ⟨events, h⟩ := emit_eq (e.timeline t) delta
  rw [h]

theorem assigns_restart (e : Engine) (t : TimelineId) : Assigns e (e.restart t) :=
  ((assigns_abort? e _).trans (assigns_modifyTimeline _ rfl)).trans (assigns_recompile ..)

theorem assigns_invalidateQuietly (e : Engine) (t : TimelineId) :
    Assigns e (e.invalidateQuietly t).2 := by
  rw [invalidateQuietly_eq]
  dsimp only
  split
  · exact ((assigns_restart e t).trans (assigns_modifyTimeline _ rfl)).trans (assigns_startRefetch ..)
  · exact assigns_restart e t

theorem assigns_invalidateNow (e : Engine) (t : TimelineId) : Assigns e (e.invalidateNow t) :=
  (assigns_invalidateQuietly e t).trans (assigns_emit ..)

theorem assigns_refresh (e : Engine) (t : TimelineId) : Assigns e (e.refresh t) := by
  unfold refresh
  split
  · exact assigns_invalidateNow e t
  · exact .refl e

theorem assigns_onInvalidated (e : Engine) (t : TimelineId) (revision : Nat) :
    Assigns e (e.onInvalidated t revision) := by
  unfold onInvalidated
  dsimp only
  split
  · exact .refl e
  · split
    · split
      · split
        · exact assigns_modifyTimeline e rfl
        · exact .refl e
      · exact assigns_invalidateNow e t
    · exact assigns_invalidateNow e t

theorem assigns_dropSubscription (e : Engine) (subscription : Option (QueryId × SubscriptionId)) :
    Assigns e (e.dropSubscription subscription) := by
  cases subscription with
  | none => exact .refl e
  | some s => exact assigns_modifyQuery ..

theorem assigns_unsubscribe (e : Engine) (t : TimelineId) : Assigns e (e.unsubscribe t) :=
  (assigns_dropSubscription ..).trans (assigns_modifyTimeline _ rfl)

theorem assigns_enrol (e : Engine) (t : TimelineId) (q : QueryId) : Assigns e (e.enrol t q) :=
  ((assigns_modifyQuery ..).trans (assigns_unsubscribe ..)).trans (assigns_modifyTimeline _ rfl)

theorem assigns_leaveQuery (e : Engine) (t : TimelineId) (query : Option QueryId) :
    Assigns e (e.leaveQuery t query) :=
  (assigns_unsubscribe e t).trans (assigns_modifyTimeline _ rfl)

theorem assigns_prepare (e : Engine) (t : TimelineId) (o : OperationId) (generation : Nat) :
    Assigns e (e.prepare t o generation) := by
  rw [prepare_eq]
  split
  · exact assigns_push ..
  · refine Assigns.trans ?_ (assigns_setStatus ..)
    unfold prepared
    split
    · exact ((assigns_recompile e t).trans (assigns_modifyTimeline _ rfl)).trans (assigns_emit ..)
    · exact .refl e

theorem assigns_teardown (e : Engine) (t : TimelineId) : Assigns e (e.teardown t).2 := by
  rw [teardown_eq]
  have hended : Assigns e (e.endWork t) :=
    ((assigns_abort? e _).trans (assigns_abort? ..)).trans (assigns_dropSubscription ..)
  exact hended.trans (assigns_modifyTimeline _ rfl)

theorem assigns_retain (e : Engine) (target : Target) : Assigns e (e.retain target) := by
  cases target with
  | timeline t => exact assigns_modifyTimeline e rfl
  | observer o => exact assigns_of_same rfl rfl

theorem assigns_retainAll (e : Engine) (targets : List Target) : Assigns e (e.retainAll targets) := by
  induction targets generalizing e with
  | nil => exact .refl e
  | cons target targets ih => exact (assigns_retain e target).trans (ih _)

theorem assigns_hold (e : Engine) (t : TimelineId) : Assigns e (e.hold t) :=
  (assigns_retain e _).trans (assigns_push ..)

theorem assigns_release (e : Engine) (target : Target) : Assigns e (e.release target) := by
  cases target with
  | observer o => exact assigns_of_same rfl rfl
  | timeline t =>
      have hdrop : Assigns e (e.dropHold t) := assigns_modifyTimeline e rfl
      rw [release_eq]
      split
      · exact (hdrop.trans (assigns_teardown ..)).trans (assigns_push ..)
      · exact hdrop

theorem assigns_close (e : Engine) (o : OperationId) (status : Status) :
    Assigns e (e.close o status) := by
  unfold close
  split
  · exact (assigns_setStatus ..).trans (assigns_release ..)
  · exact .refl e

-- Calls that go on.

theorem assigns_toggled (e : Engine) (q : QueryId) : Assigns e (e.toggled q) := by
  unfold toggled
  split
  · exact .refl e
  · exact assigns_push ..

theorem assigns_removeActivation (e : Engine) (q : QueryId) : Assigns e (e.removeActivation q) := by
  unfold removeActivation
  split
  · exact (assigns_modifyQuery ..).trans (assigns_toggled ..)
  · exact .refl e

theorem assigns_announce (e : Engine) (q : QueryId) (revision : Nat) :
    Assigns e (e.announce q revision) := by
  unfold announce
  dsimp only
  split
  · exact assigns_modifyQuery ..
  · exact ((assigns_modifyQuery ..).trans (assigns_retainAll ..)).trans (assigns_push ..)

theorem assigns_continueRounds (e : Engine) (q : QueryId) : Assigns e (e.continueRounds q) := by
  unfold continueRounds
  dsimp only
  split
  · exact (assigns_modifyQuery ..).trans (assigns_push ..)
  · exact ((assigns_modifyQuery ..).trans (assigns_retainAll ..)).trans (assigns_push ..)
  · exact assigns_modifyQuery ..

theorem assigns_attach (e : Engine) (t : TimelineId) (q : QueryId) (epoch : Nat) (purpose : Purpose) :
    Assigns e (e.attach t q epoch purpose) := by
  rw [attach_eq]
  split
  · cases purpose <;> exact assigns_push ..
  · cases purpose with
    | swap => exact (assigns_enrol e t q).trans (assigns_refresh ..)
    | activation o generation => exact (assigns_enrol e t q).trans (assigns_prepare ..)

theorem assigns_perform (e : Engine) (f : Frame) : Assigns e (e.perform f) := by
  cases f with
  | activate q => exact (assigns_modifyQuery ..).trans (assigns_toggled ..)
  | deactivate q => exact assigns_removeActivation e q
  | announce q revision => exact assigns_announce e q revision
  | rounds q => exact assigns_continueRounds e q
  | call target revision =>
      cases target with
      | timeline t => exact assigns_onInvalidated e t revision
      | observer o => exact assigns_push ..
  | observer o revision => exact .refl e
  | release target => exact assigns_release e target
  | attach t q epoch purpose => exact assigns_attach e t q epoch purpose
  | emit t delta => exact assigns_emit e t delta
  | finish o result => exact assigns_close e o _

theorem assigns_step (hallows : e.allows .step = true) : Assigns e (e.after .step) := by
  obtain ⟨f, rest, -, -, hafter⟩ := after_step hallows
  have hpop : Assigns e { e with stack := rest } := assigns_of_same rfl rfl
  rw [hafter]
  exact hpop.trans (assigns_perform ..)

-- Somebody uses a timeline, and storage answers.

theorem assigns_deactivate (e : Engine) (t : TimelineId) : Assigns e (e.deactivate t) := by
  unfold deactivate
  split
  · exact (assigns_teardown e t).trans (assigns_push ..)
  · exact .refl e

theorem assigns_invalidate (e : Engine) (t : TimelineId) : Assigns e (e.invalidate t) := by
  unfold invalidate
  split
  · exact .refl e
  · exact assigns_invalidateNow e t

theorem assigns_setQuery (e : Engine) (t : TimelineId) (query : Option QueryId) :
    Assigns e (e.setQuery t query).2 := by
  rw [setQuery_eq]
  split
  · exact .refl e
  · exact ((assigns_leaveQuery e t query).trans (assigns_invalidateNow ..)).trans (assigns_push ..)

theorem assigns_addOperation (e : Engine) (t : TimelineId) (kind : OperationKind) :
    Assigns e (e.addOperation t kind).2 := by
  have hadded : Assigns e
      { e with operations := e.operations ++ [{ timeline := t, kind, status := .running }] } :=
    assigns_of_same rfl rfl
  exact hadded.trans (assigns_retain _ (.timeline t))

theorem assigns_launch (e : Engine) (t : TimelineId) : Assigns e (e.launch t) := by
  have hspawned : Assigns e (e.spawn (.pump t (e.timeline t).stream)).2 := assigns_spawn e nofun
  have hheard : Assigns (e.spawn (.pump t (e.timeline t).stream)).2
      ((e.spawn (.pump t (e.timeline t).stream)).2.modifyChannel (e.timeline t).stream
        (·.subscribe e.tasks.length)) := assigns_of_same rfl rfl
  exact (hspawned.trans hheard).trans (assigns_modifyTimeline _ rfl)

theorem assigns_startActivation (e : Engine) (t : TimelineId) (hasRuntime : Bool) :
    Assigns e (e.startActivation t hasRuntime).2 := by
  have hadded := assigns_addOperation e t .activation
  rcases startActivation_cases e t hasRuntime with ⟨-, -, heq⟩ | ⟨-, result, heq⟩
  · have hlaunch := assigns_launch (e.addOperation t .activation).2 t
    rw [heq]
    unfold launched
    split
    · exact (hadded.trans hlaunch).trans (assigns_push ..)
    · exact (hadded.trans hlaunch).trans (assigns_prepare ..)
  · rw [heq]
    exact hadded.trans (assigns_close ..)

theorem assigns_complete (e : Engine) (o : OperationId) (result : Except StorageError (List Item)) :
    Assigns e (e.complete o result) := by
  cases completes e o result with
  | unasked hnone heq =>
      rw [heq]
      exact .refl e
  | ended hop hwhy heq =>
      rw [heq]
      exact assigns_close ..
  | @merged t kind r items phase outcome hop hg hphase heq =>
      rw [heq]
      refine Assigns.trans (assigns_modifyTimeline e ?_) (assigns_close ..)
      obtain ⟨events, h⟩ := absorb_eq { e.timeline t with phase } items
      rw [h]
  | rolledBack hop hg heq =>
      rw [heq]
      exact ((assigns_setStatus ..).trans (assigns_teardown ..)).trans (assigns_push ..)

theorem assigns_cancel (e : Engine) (o : OperationId) : Assigns e (e.cancel o) := by
  unfold cancel
  split
  · exact assigns_close ..
  · exact .refl e

-- Live items reach a timeline.

theorem assigns_offer (e : Engine) (t : TimelineId) (item : Item) :
    Assigns e (e.offer t item).2 := by
  have hcatch : Assigns e (e.catchUp t) := by
    unfold catchUp
    split
    · exact ((assigns_invalidateQuietly e t).trans (assigns_modifyTimeline _ rfl)).trans
        (assigns_emit ..)
    · exact .refl e
  rw [offer_eq]
  split
  · exact .refl e
  · split
    · refine hcatch.trans (assigns_modifyTimeline _ ?_)
      obtain ⟨events, unread, notified, h⟩ := receive_eq ((e.catchUp t).timeline t) item
      rw [h]
    · exact hcatch

end FilteredFeed.Engine
