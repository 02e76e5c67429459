import FilteredFeed.Engine.Tasks

namespace FilteredFeed

open FilteredFeed.Feed FilteredFeed.Filter FilteredFeed.Listener FilteredFeed.Timeline

variable [Patterns]

namespace Query

variable {τ : Type}

-- What a query remembers is the compiled form of its expression.
def Coherent (q : Query τ) : Prop := ∀ filter, q.compiled = some filter → filter = q.expr.compile

-- A query differs from another one at most in what it remembers.
structure Remembers (q q' : Query τ) : Prop where
  expr : q'.expr = q.expr
  revision : q'.revision = q.revision
  activations : q'.activations = q.activations
  registry : q'.registry = q.registry
  coherent : q.Coherent → q'.Coherent

theorem Remembers.refl (q : Query τ) : q.Remembers q := ⟨rfl, rfl, rfl, rfl, id⟩

theorem Remembers.trans {q q' q'' : Query τ} (h : q.Remembers q') (h' : q'.Remembers q'') :
    q.Remembers q'' :=
  ⟨h'.expr.trans h.expr, h'.revision.trans h.revision, h'.activations.trans h.activations,
    h'.registry.trans h.registry, h'.coherent ∘ h.coherent⟩

theorem remembers_compile (q : Query τ) : q.Remembers q.compile.2 := by
  unfold compile
  cases h : q.compiled with
  | some filter => exact .refl q
  | none =>
      refine ⟨rfl, rfl, rfl, rfl, fun _ filter hf => ?_⟩
      exact (Option.some.inj hf).symm

theorem Coherent.compile {q : Query τ} (h : q.Coherent) : q.compile.1 = q.expr.compile := by
  unfold Query.compile
  cases hc : q.compiled with
  | some filter => exact h filter hc
  | none => rfl

end Query

namespace Engine

variable {e e' e'' : Engine} {t t' : TimelineId} {q q' : QueryId}

def jobs (e : Engine) : List Job := e.tasks.map Task.job

-- Two engines differ in their channels and in how far their tasks are.
structure Background (e e' : Engine) : Prop where
  queries : e'.queries = e.queries
  timelines : e'.timelines = e.timelines
  observers : e'.observers = e.observers
  operations : e'.operations = e.operations
  stack : e'.stack = e.stack
  jobs : e'.jobs = e.jobs

namespace Background

theorem refl (e : Engine) : Background e e := ⟨rfl, rfl, rfl, rfl, rfl, rfl⟩

theorem trans (h : Background e e') (h' : Background e' e'') : Background e e'' :=
  ⟨h'.queries.trans h.queries, h'.timelines.trans h.timelines, h'.observers.trans h.observers,
    h'.operations.trans h.operations, h'.stack.trans h.stack, h'.jobs.trans h.jobs⟩

theorem query (h : Background e e') (q : QueryId) : e'.query q = e.query q := by
  unfold Engine.query
  rw [h.queries]

theorem timeline (h : Background e e') (t : TimelineId) : e'.timeline t = e.timeline t := by
  unfold Engine.timeline
  rw [h.timelines]

end Background

theorem background_modifyChannel (e : Engine) (s : StreamId) (f : Channel → Channel) :
    Background e (e.modifyChannel s f) :=
  ⟨rfl, rfl, rfl, rfl, rfl, rfl⟩

theorem background_modifyTask (e : Engine) (k : TaskId) {f : Task → Task}
    (hf : ∀ task, (f task).job = task.job) : Background e (e.modifyTask k f) := by
  refine ⟨rfl, rfl, rfl, rfl, rfl, ?_⟩
  apply List.ext_getElem?
  intro i
  simp only [jobs, modifyTask, List.getElem?_map, List.getElem?_modify]
  by_cases h : k = i
  · cases e.tasks[i]? with
    | none => simp
    | some task => simp [h, hf]
  · simp [h]

theorem background_wake (e : Engine) (k : TaskId) : Background e (e.wake k) := by
  unfold wake
  split
  · exact .refl e
  · exact ⟨rfl, rfl, rfl, rfl, rfl, rfl⟩

theorem background_wakeAll (e : Engine) (keys : List TaskId) :
    Background e (keys.foldl wake e) := by
  induction keys generalizing e with
  | nil => exact .refl e
  | cons k keys ih => exact (background_wake e k).trans (ih _)

theorem background_abort (e : Engine) (k : TaskId) : Background e (e.abort k) := by
  unfold abort
  refine Background.trans ?_ (background_wake _ k)
  exact background_modifyTask e k fun _ => rfl

theorem background_abort? (e : Engine) (k : Option TaskId) : Background e (e.abort? k) := by
  cases k with
  | none => exact .refl e
  | some k => exact background_abort e k

theorem background_finishTask (e : Engine) (k : TaskId) : Background e (e.finishTask k) := by
  unfold finishTask
  refine Background.trans ?_ (background_modifyTask _ k fun _ => rfl)
  split
  · exact background_modifyChannel e ..
  · exact .refl e

theorem background_publish (e : Engine) (s : StreamId) (item : Item) :
    Background e (e.publish s item).2 := by
  unfold publish
  dsimp only
  split
  · exact .refl e
  · exact (background_wakeAll e _).trans (background_modifyChannel ..)

theorem background_closeStream (e : Engine) (s : StreamId) : Background e (e.closeStream s) :=
  (background_wakeAll e _).trans (background_modifyChannel ..)

theorem background_nextTask (e : Engine) :
    Background e ((e.nextTask.map Prod.snd).getD e) := by
  unfold nextTask
  cases e.ready with
  | nil => exact .refl e
  | cons k ready => exact ⟨rfl, rfl, rfl, rfl, rfl, rfl⟩

-- What changing one timeline or one query does to each.

theorem timeline_modifyTimeline_self (ht : t < e.timelines.length) (f : Timeline → Timeline) :
    (e.modifyTimeline t f).timeline t = f (e.timeline t) := by
  simp [modifyTimeline, timeline, List.getElem?_eq_getElem ht]

theorem timeline_modifyTimeline_ne (h : t' ≠ t) (f : Timeline → Timeline) :
    (e.modifyTimeline t f).timeline t' = e.timeline t' := by
  simp [modifyTimeline, timeline, List.getElem?_modify_ne _ _ (Ne.symm h)]

theorem modifyTimeline_of_le (h : e.timelines.length ≤ t) (f : Timeline → Timeline) :
    e.modifyTimeline t f = e := by
  simp [modifyTimeline, List.modify_eq_self h]

theorem modifyTimeline_congr {f g : Timeline → Timeline}
    (h : f (e.timeline t) = g (e.timeline t)) : e.modifyTimeline t f = e.modifyTimeline t g := by
  have heq : e.timelines.modify t f = e.timelines.modify t g := by
    apply List.ext_getElem?
    intro i
    simp only [List.getElem?_modify]
    by_cases hi : t = i
    · subst hi
      cases hT : e.timelines[t]? with
      | none => simp
      | some old => simpa [timeline, hT] using h
    · simp [hi]
  simp only [modifyTimeline, heq]

theorem modifyTimeline_modifyTimeline (e : Engine) (t : TimelineId) (f g : Timeline → Timeline) :
    (e.modifyTimeline t f).modifyTimeline t g = e.modifyTimeline t (g ∘ f) := by
  simp only [modifyTimeline, List.modify_modify_eq]

theorem getElem_timelines (ht : t < e.timelines.length) : e.timelines[t] = e.timeline t := by
  simp [timeline, List.getElem?_eq_getElem ht]

theorem exists_timeline_eq {T : Timeline} (hmem : T ∈ e.timelines) : ∃ t, e.timeline t = T := by
  obtain ⟨t, ht, rfl⟩ := List.mem_iff_getElem.mp hmem
  exact ⟨t, (getElem_timelines ht).symm⟩

theorem timeline_of_le (h : e.timelines.length ≤ t) : e.timeline t = default := by
  simp [timeline, List.getElem?_eq_none h]

-- A timeline that is changed is as it was, if it does not exist.
theorem timeline_modifyTimeline (e : Engine) (t t' : TimelineId) (f : Timeline → Timeline) :
    (e.modifyTimeline t f).timeline t' = e.timeline t' ∨
      t' = t ∧ (e.modifyTimeline t f).timeline t' = f (e.timeline t) := by
  by_cases h : t' = t
  · subst h
    by_cases ht : t' < e.timelines.length
    · exact .inr ⟨rfl, timeline_modifyTimeline_self ht f⟩
    · rw [modifyTimeline_of_le (Nat.le_of_not_lt ht)]
      exact .inl rfl
  · exact .inl (timeline_modifyTimeline_ne h f)

theorem query_modifyQuery_self (hq : q < e.queries.length) (f : Query Target → Query Target) :
    (e.modifyQuery q f).query q = f (e.query q) := by
  simp [modifyQuery, query, List.getElem?_eq_getElem hq]

theorem query_modifyQuery_ne (h : q' ≠ q) (f : Query Target → Query Target) :
    (e.modifyQuery q f).query q' = e.query q' := by
  simp [modifyQuery, query, List.getElem?_modify_ne _ _ (Ne.symm h)]

theorem query_modifyQuery (e : Engine) (q q' : QueryId) (f : Query Target → Query Target) :
    (e.modifyQuery q f).query q' = e.query q' ∨
      q' = q ∧ (e.modifyQuery q f).query q' = f (e.query q) := by
  by_cases h : q' = q
  · subst h
    by_cases hq : q' < e.queries.length
    · exact .inr ⟨rfl, query_modifyQuery_self hq f⟩
    · refine .inl ?_
      simp [modifyQuery, query, List.modify_eq_self (Nat.le_of_not_lt hq)]
  · exact .inl (query_modifyQuery_ne h f)

theorem modifyQuery_congr {f g : Query Target → Query Target}
    (h : f (e.query q) = g (e.query q)) : e.modifyQuery q f = e.modifyQuery q g := by
  have heq : e.queries.modify q f = e.queries.modify q g := by
    apply List.ext_getElem?
    intro i
    simp only [List.getElem?_modify]
    by_cases hi : q = i
    · subst hi
      cases hQ : e.queries[q]? with
      | none => simp
      | some old => simpa [query, hQ] using h
    · simp [hi]
  simp only [modifyQuery, heq]

theorem jobs_spawn (e : Engine) (job : Job) : (e.spawn job).2.jobs = e.jobs ++ [job] := by
  simp [spawn, jobs]

end Engine

end FilteredFeed
