import FilteredFeed.Proofs.Engine.Settled

namespace FilteredFeed

open FilteredFeed.Feed FilteredFeed.Filter FilteredFeed.Listener FilteredFeed.Timeline

variable [Patterns]

namespace Timeline

-- What a timeline knows of its background work stays.
structure SameWork (T T' : Timeline) : Prop where
  phase : T'.phase = T.phase
  pump : T'.pump = T.pump
  refetch : T'.refetch = T.refetch
  hasRuntime : T'.hasRuntime = T.hasRuntime
  generation : T'.generation = T.generation

variable {T T' T'' : Timeline}

theorem SameWork.refl (T : Timeline) : T.SameWork T := ⟨rfl, rfl, rfl, rfl, rfl⟩

theorem SameWork.trans (h : T.SameWork T') (h' : T'.SameWork T'') : T.SameWork T'' :=
  ⟨h'.phase.trans h.phase, h'.pump.trans h.pump, h'.refetch.trans h.refetch,
    h'.hasRuntime.trans h.hasRuntime, h'.generation.trans h.generation⟩

theorem sameWork_emit (T : Timeline) (delta : Delta) : T.SameWork (T.emit delta) := by
  obtain ⟨events, h⟩ := emit_eq T delta
  exact h ▸ ⟨rfl, rfl, rfl, rfl, rfl⟩

theorem sameWork_absorb (T : Timeline) (items : List Item) : T.SameWork (T.absorb items).1 := by
  obtain ⟨events, h⟩ := absorb_eq T items
  exact h ▸ ⟨rfl, rfl, rfl, rfl, rfl⟩

theorem sameWork_receive (T : Timeline) (item : Item) : T.SameWork (T.receive item) := by
  obtain ⟨events, unread, notified, h⟩ := receive_eq T item
  exact h ▸ ⟨rfl, rfl, rfl, rfl, rfl⟩

end Timeline

namespace Engine

variable {e e' e'' : Engine} {t : TimelineId} {k k' : TaskId} {job : Job} {d : Option TimelineId}

def Job.timeline : Job → TimelineId
  | .pump t _ | .refetch t _ => t

-- Whether a task was neither aborted nor has ended.
def Task.isLive (task : Task) : Bool := !task.aborted && !task.finished

-- What a task does, as long as it is live.
def work (e : Engine) (k : TaskId) : Option Job :=
  match e.tasks[k]? with
  | some task => if task.isLive then some task.job else none
  | none => none

theorem work_eq_some : e.work k = some job ↔
    ∃ task, e.tasks[k]? = some task ∧ task.isLive = true ∧ task.job = job := by
  unfold work
  cases e.tasks[k]? with
  | none => simp
  | some task => simp

theorem job_of_work (h : e.work k = some job) : e.jobs[k]? = some job := by
  obtain ⟨task, htask, -, rfl⟩ := work_eq_some.mp h
  simp [jobs, htask]

theorem work_congr (h : e'.tasks = e.tasks) (k : TaskId) : e'.work k = e.work k := by
  simp only [work, h]

@[simp] theorem work_modifyTimeline (e : Engine) (t : TimelineId) (f : Timeline → Timeline)
    (k : TaskId) : (e.modifyTimeline t f).work k = e.work k := rfl

theorem jobs_congr (h : e'.tasks = e.tasks) : e'.jobs = e.jobs := by
  simp only [jobs, h]

-- A task that is turned off does nothing more.
theorem work_off {f : Task → Task} (hf : ∀ task, (f task).isLive = false)
    (h : e'.tasks = e.tasks.modify k f) (k' : TaskId) :
    e'.work k' = if k = k' then none else e.work k' := by
  unfold work
  rw [h, List.getElem?_modify]
  by_cases hk : k = k'
  · cases e.tasks[k']? with
    | none => simp
    | some task => simp [hk, hf]
  · simp [hk]

theorem tasks_wake (e : Engine) (k : TaskId) : (e.wake k).tasks = e.tasks := by
  unfold wake
  split <;> rfl

theorem tasks_wakeAll (e : Engine) (keys : List TaskId) :
    (keys.foldl wake e).tasks = e.tasks := by
  induction keys generalizing e with
  | nil => rfl
  | cons k keys ih => exact (ih _).trans (tasks_wake e k)

theorem work_abort (e : Engine) (k k' : TaskId) :
    (e.abort k).work k' = if k = k' then none else e.work k' :=
  work_off (f := fun task => { task with aborted := true }) (fun _ => rfl) (tasks_wake _ k) k'

theorem work_abort? (e : Engine) (handle : Option TaskId) (k : TaskId) :
    (e.abort? handle).work k = if handle = some k then none else e.work k := by
  cases handle with
  | none => simp [abort?]
  | some k' => simp [abort?, work_abort]

theorem work_finishTask (e : Engine) (k k' : TaskId) :
    (e.finishTask k).work k' = if k = k' then none else e.work k' := by
  refine work_off (f := fun task => { task with finished := true }) (fun task => ?_) ?_ k'
  · simp [Task.isLive]
  · unfold finishTask
    split <;> rfl

theorem work_spawn (e : Engine) (job : Job) (k : TaskId) :
    (e.spawn job).2.work k = if k = e.tasks.length then some job else e.work k := by
  unfold work spawn
  dsimp only
  rcases Nat.lt_trichotomy k e.tasks.length with h | rfl | h
  · simp [List.getElem?_append_left h, Nat.ne_of_lt h]
  · simp [Task.isLive]
  · have hle : e.tasks.length ≤ k := Nat.le_of_lt h
    have hout : k - e.tasks.length ≠ 0 := Nat.sub_ne_zero_of_lt h
    simp [List.getElem?_append_right hle, List.getElem?_eq_none hle, Nat.ne_of_gt h, hout]

-- The background work of all timelines but one at most stays as it is.
structure Idle (d : Option TimelineId) (e e' : Engine) : Prop where
  timeline : ∀ t, d ≠ some t → (e.timeline t).SameWork (e'.timeline t)
  jobs : ∀ (k : TaskId) job, e.jobs[k]? = some job → e'.jobs[k]? = some job
  work : ∀ k job, d ≠ some job.timeline → (e'.work k = some job ↔ e.work k = some job)

theorem Idle.refl (d : Option TimelineId) (e : Engine) : Idle d e e :=
  ⟨fun _ _ => .refl _, fun _ _ => id, fun _ _ _ => Iff.rfl⟩

theorem Idle.trans (h : Idle d e e') (h' : Idle d e' e'') : Idle d e e'' :=
  ⟨fun t ht => (h.timeline t ht).trans (h'.timeline t ht), fun k job => h'.jobs k job ∘ h.jobs k job,
    fun k job hd => (h'.work k job hd).trans (h.work k job hd)⟩

theorem Idle.of_none (h : Idle none e e') : Idle d e e' :=
  ⟨fun t _ => h.timeline t nofun, h.jobs, fun k job _ => h.work k job nofun⟩

theorem idle_of_tasks (h : e'.tasks = e.tasks)
    (ht : ∀ t, d ≠ some t → (e.timeline t).SameWork (e'.timeline t)) : Idle d e e' := by
  refine ⟨ht, fun k job hjob => ?_, fun k job _ => ?_⟩
  · rwa [jobs_congr h]
  · rw [work_congr h]

-- What concerns neither tasks nor timelines.
theorem idle_of_same (htasks : e'.tasks = e.tasks) (htimelines : e'.timelines = e.timelines) :
    Idle none e e' := by
  refine idle_of_tasks htasks fun t _ => ?_
  unfold timeline
  rw [htimelines]
  exact .refl _

theorem idle_modifyTimeline (e : Engine) {f : Timeline → Timeline}
    (h : (e.timeline t).SameWork (f (e.timeline t))) : Idle none e (e.modifyTimeline t f) := by
  refine idle_of_tasks rfl fun t' _ => ?_
  rcases timeline_modifyTimeline e t t' f with hT | ⟨rfl, hT⟩
  · rw [hT]
    exact .refl _
  · rw [hT]
    exact h

theorem idle_change (e : Engine) (t : TimelineId) (f : Timeline → Timeline) :
    Idle (some t) e (e.modifyTimeline t f) := by
  refine idle_of_tasks rfl fun t' hd => ?_
  rw [timeline_modifyTimeline_ne fun heq => hd (congrArg some heq.symm)]
  exact .refl _

theorem idle_modifyQuery (e : Engine) (q : QueryId) (f : Query Target → Query Target) :
    Idle none e (e.modifyQuery q f) :=
  idle_of_same rfl rfl

theorem idle_modifyChannel (e : Engine) (s : StreamId) (f : Channel → Channel) :
    Idle none e (e.modifyChannel s f) :=
  idle_of_same rfl rfl

theorem idle_push (e : Engine) (frames : List Frame) : Idle none e (e.push frames) :=
  idle_of_same rfl rfl

theorem idle_setStatus (e : Engine) (o : OperationId) (status : Status) :
    Idle none e (e.setStatus o status) :=
  idle_of_same rfl rfl

theorem idle_retain (e : Engine) (target : Target) : Idle none e (e.retain target) := by
  cases target with
  | timeline t => exact idle_modifyTimeline e ⟨rfl, rfl, rfl, rfl, rfl⟩
  | observer o => exact idle_of_same rfl rfl

theorem idle_retainAll (e : Engine) (targets : List Target) :
    Idle none e (e.retainAll targets) := by
  induction targets generalizing e with
  | nil => exact .refl _ _
  | cons target targets ih => exact (idle_retain e target).trans (ih _)

theorem idle_hold (e : Engine) (t : TimelineId) : Idle none e (e.hold t) :=
  (idle_retain e _).trans (idle_push ..)

theorem idle_emit (e : Engine) (t : TimelineId) (delta : Delta) : Idle none e (e.emit t delta) :=
  idle_modifyTimeline e (sameWork_emit _ delta)

theorem idle_recompile (e : Engine) (t : TimelineId) : Idle none e (e.recompile t) := by
  unfold recompile
  split
  · exact (idle_modifyQuery ..).trans (idle_modifyTimeline _ ⟨rfl, rfl, rfl, rfl, rfl⟩)
  · exact idle_modifyTimeline e ⟨rfl, rfl, rfl, rfl, rfl⟩

theorem idle_currentFilter (e : Engine) (t : TimelineId) : Idle none e (e.currentFilter t).2 := by
  unfold currentFilter
  split
  · split
    · exact idle_modifyQuery ..
    · exact .refl _ _
  · exact .refl _ _

theorem idle_dropSubscription (e : Engine) (subscription : Option (QueryId × SubscriptionId)) :
    Idle none e (e.dropSubscription subscription) := by
  cases subscription with
  | none => exact .refl _ _
  | some s => exact idle_modifyQuery ..

theorem idle_unsubscribe (e : Engine) (t : TimelineId) : Idle none e (e.unsubscribe t) :=
  (idle_dropSubscription ..).trans (idle_modifyTimeline _ ⟨rfl, rfl, rfl, rfl, rfl⟩)

theorem idle_toggled (e : Engine) (q : QueryId) : Idle none e (e.toggled q) := by
  unfold toggled
  split
  · exact .refl _ _
  · exact idle_push ..

theorem idle_addActivation (e : Engine) (q : QueryId) : Idle none e (e.addActivation q) :=
  (idle_modifyQuery ..).trans (idle_toggled ..)

theorem idle_removeActivation (e : Engine) (q : QueryId) : Idle none e (e.removeActivation q) := by
  unfold removeActivation
  split
  · exact (idle_modifyQuery ..).trans (idle_toggled ..)
  · exact .refl _ _

theorem idle_announce (e : Engine) (q : QueryId) (revision : Nat) :
    Idle none e (e.announce q revision) := by
  unfold announce
  dsimp only
  split
  · exact idle_modifyQuery ..
  · exact ((idle_modifyQuery ..).trans (idle_retainAll ..)).trans (idle_push ..)

theorem idle_continueRounds (e : Engine) (q : QueryId) : Idle none e (e.continueRounds q) := by
  unfold continueRounds
  dsimp only
  split
  · exact (idle_modifyQuery ..).trans (idle_push ..)
  · exact ((idle_modifyQuery ..).trans (idle_retainAll ..)).trans (idle_push ..)
  · exact idle_modifyQuery ..

theorem idle_enrol (e : Engine) (t : TimelineId) (q : QueryId) : Idle none e (e.enrol t q) := by
  unfold enrol
  refine Idle.trans ?_ (idle_modifyTimeline _ ⟨rfl, rfl, rfl, rfl, rfl⟩)
  exact (idle_modifyQuery ..).trans (idle_unsubscribe ..)

theorem idle_prepare (e : Engine) (t : TimelineId) (o : OperationId) (generation : Nat) :
    Idle none e (e.prepare t o generation) := by
  rw [prepare_eq]
  split
  · exact idle_push ..
  · refine Idle.trans ?_ (idle_setStatus ..)
    unfold prepared
    split
    · refine ((idle_recompile e t).trans ?_).trans (idle_emit ..)
      exact idle_modifyTimeline _ ⟨rfl, rfl, rfl, rfl, rfl⟩
    · exact .refl _ _

theorem idle_leaveQuery (e : Engine) (t : TimelineId) (query : Option QueryId) :
    Idle none e (e.leaveQuery t query) :=
  (idle_unsubscribe e t).trans (idle_modifyTimeline _ ⟨rfl, rfl, rfl, rfl, rfl⟩)

theorem idle_addOperation (e : Engine) (t : TimelineId) (kind : OperationKind) :
    Idle none e (e.addOperation t kind).2 := by
  have hadded : Idle none e
      { e with operations := e.operations ++ [{ timeline := t, kind, status := .running }] } :=
    idle_of_same rfl rfl
  exact hadded.trans (idle_retain _ (.timeline t))

-- The background work of a timeline is all that is aborted.
theorem idle_abort? {handle : Option TaskId}
    (h : ∀ k, handle = some k → ∃ job, e.jobs[k]? = some job ∧ job.timeline = t) :
    Idle (some t) e (e.abort? handle) := by
  have hb := background_abort? e handle
  refine ⟨fun t' _ => hb.timeline t' ▸ .refl _, fun k job hjob => hb.jobs ▸ hjob, ?_⟩
  intro k job hd
  rw [work_abort?]
  split
  · rename_i hhandle
    refine ⟨nofun, fun hwork => ?_⟩
    obtain ⟨job', hjob', rfl⟩ := h k hhandle
    exact absurd (Option.some.inj (hjob'.symm.trans (job_of_work hwork)) ▸ rfl) hd
  · exact Iff.rfl

theorem idle_finishTask (h : e.jobs[k]? = some job) :
    Idle (some job.timeline) e (e.finishTask k) := by
  have hb := background_finishTask e k
  refine ⟨fun t' _ => hb.timeline t' ▸ .refl _, fun k job hjob => hb.jobs ▸ hjob, ?_⟩
  intro k' job' hd
  rw [work_finishTask]
  split
  · rename_i hk
    refine ⟨nofun, fun hwork => ?_⟩
    have heq := Option.some.inj (h.symm.trans (hk ▸ job_of_work hwork))
    exact absurd (heq ▸ rfl) hd
  · exact Iff.rfl

-- A task that is not live does not change when it ends.
theorem idle_finishTask_of_none (h : e.work k = none) : Idle none e (e.finishTask k) := by
  have hb := background_finishTask e k
  refine ⟨fun t' _ => hb.timeline t' ▸ .refl _, fun k job hjob => hb.jobs ▸ hjob, ?_⟩
  intro k' job hd
  rw [work_finishTask]
  split
  · rename_i hk
    rw [← hk, h]
  · exact Iff.rfl

theorem idle_spawn (e : Engine) (job : Job) : Idle (some job.timeline) e (e.spawn job).2 := by
  refine ⟨fun _ _ => .refl _, fun k job' hjob => ?_, fun k job' hd => ?_⟩
  · rw [jobs_spawn]
    rw [List.getElem?_append_left (List.getElem?_eq_some_iff.mp hjob).1]
    exact hjob
  · rw [work_spawn]
    split
    · rename_i hk
      refine ⟨fun heq => absurd (Option.some.inj heq ▸ rfl) hd, fun hwork => ?_⟩
      have hjob := job_of_work hwork
      simp [jobs, hk] at hjob
    · exact Iff.rfl

theorem idle_start (e : Engine) (k : TaskId) :
    Idle none e (e.modifyTask k fun task => { task with started := true }) := by
  have hb := background_modifyTask e k fun task =>
    (rfl : ({ task with started := true } : Task).job = task.job)
  refine ⟨fun t' _ => hb.timeline t' ▸ .refl _, fun k job hjob => hb.jobs ▸ hjob, ?_⟩
  intro k' job _
  unfold work modifyTask
  rw [List.getElem?_modify]
  cases e.tasks[k']? with
  | none => exact Iff.rfl
  | some task => by_cases hk : k = k' <;> simp [hk, Task.isLive]

theorem idle_publish (e : Engine) (s : StreamId) (item : Item) : Idle none e (e.publish s item).2 := by
  unfold publish
  dsimp only
  split
  · exact .refl _ _
  · exact idle_of_same (tasks_wakeAll e _) (background_wakeAll e _).timelines

theorem idle_closeStream (e : Engine) (s : StreamId) : Idle none e (e.closeStream s) :=
  idle_of_same (tasks_wakeAll e _) (background_wakeAll e _).timelines

theorem idle_nextTask (e : Engine) : Idle none e ((e.nextTask.map Prod.snd).getD e) := by
  unfold nextTask
  cases e.ready with
  | nil => exact .refl _ _
  | cons k ready => exact idle_of_same rfl rfl

end Engine

end FilteredFeed
