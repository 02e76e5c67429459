import FilteredFeed.Proofs.Engine.Requests

namespace FilteredFeed.Engine

open FilteredFeed.Feed FilteredFeed.Filter FilteredFeed.Listener FilteredFeed.Timeline

variable [Patterns]
variable {e : Engine} {k : TaskId}

-- Tasks.

theorem background_poll_refetch (e : Engine) (k : TaskId)
    (h : ∀ t s started, e.tasks[k]? ≠ some ⟨.pump t s, started, false, false⟩) :
    Background e (e.poll k).2 := by
  unfold poll
  split
  · exact .refl e
  · rename_i job started aborted finished hk
    cases finished with
    | true => exact .refl e
    | false =>
        cases aborted with
        | true => exact background_finishTask e k
        | false =>
            cases job with
            | pump t s => exact absurd hk (h t s started)
            | refetch t request =>
                simp only [Bool.false_eq_true, if_false]
                split
                · exact background_modifyTask e k fun _ => rfl
                · exact background_finishTask e k

-- A task that goes on is a pump that takes what comes next, or starts or ends.
theorem turn_cases (e : Engine) (k : TaskId) :
    (∃ t s started, e.tasks[k]? = some ⟨.pump t s, started, false, false⟩ ∧
      e.turn k = runPump k t s 1 e) ∨
    (∀ t s started, e.tasks[k]? ≠ some ⟨.pump t s, started, false, false⟩) ∧
      e.turn k = (e.poll k).2 := by
  unfold turn
  split
  · rename_i t s started htask
    exact .inl ⟨t, s, started, htask, rfl⟩
  · rename_i hpump
    exact .inr ⟨hpump, rfl⟩

-- What comes of it when a task goes on. Only a pump has to do with a timeline.
inductive Polls (e : Engine) (k : TaskId) (e' : Engine) : Prop
  | background (h : Background e e')
  | offered {t : TimelineId} {s : StreamId} {started : Bool} {item : Item} {e₁ : Engine}
      (htask : e.tasks[k]? = some ⟨.pump t s, started, false, false⟩)
      (halive : e.isAlive (.timeline t) = true)
      (hitem : ((e.channel s).receive k).1 = .item item)
      (h : Background e e₁) (heq : e' = (e₁.offer t item).2)
  | lagged {t : TimelineId} {s : StreamId} {started : Bool} {missed : Nat} {e₁ : Engine}
      (htask : e.tasks[k]? = some ⟨.pump t s, started, false, false⟩)
      (halive : e.isAlive (.timeline t) = true) (hactive : (e.timeline t).phase.isActive = true)
      (hmissed : ((e.channel s).receive k).1 = .lagged missed)
      (h : Background e e₁) (heq : e' = e₁.startRefetch t)

theorem polls (e : Engine) (k : TaskId) : Polls e k (e.turn k) := by
  rcases turn_cases e k with ⟨t, s, started, htask, heq⟩ | ⟨hpump, heq⟩
  · have hb := background_modifyChannel e s fun _ => ((e.channel s).receive k).2
    have hfinish := hb.trans (background_finishTask _ k)
    rw [heq]
    simp only [runPump]
    split
    · exact .background hb
    · rename_i item hitem
      split
      · rename_i halive
        exact .offered htask halive hitem hb rfl
      · exact .background hfinish
    · rename_i missed hmissed
      split
      · rename_i halive
        unfold recoverLag
        split
        · rename_i hactive
          exact .lagged htask halive hactive hmissed hb rfl
        · exact .background hb
      · exact .background hfinish
    · exact .background hfinish
  · rw [heq]
    exact .background (background_poll_refetch e k hpump)

-- A timeline whose refetch has come to its end.
def replenished (T : Timeline) : Timeline :=
  { T with
    refetch := none
    phase := if T.phase = .invalidated then .active else T.phase }

-- What comes of it when storage answers a task. The timeline is told of it unless it has moved on.
inductive Replenishes (e : Engine) (k : TaskId) (e' : Engine) :
    Except StorageError (List Item) → Prop
  | background {result : Except StorageError (List Item)} (h : Background e e') :
      Replenishes e k e' result
  | filled {t : TimelineId} {r : FetchRequest} {items : List Item} {e₁ : Engine}
      (hasks : e.asks (.task k) = some (t, r)) (halive : e.isAlive (.timeline t) = true)
      (hg : r.generation = (e.timeline t).generation) (h : Background e e₁)
      (heq : e' = e₁.modifyTimeline t fun T => ((replenished T).absorb items).1) :
      Replenishes e k e' (.ok items)
  | failed {t : TimelineId} {r : FetchRequest} {cause : StorageError} {e₁ : Engine}
      (hasks : e.asks (.task k) = some (t, r)) (halive : e.isAlive (.timeline t) = true)
      (hg : r.generation = (e.timeline t).generation) (h : Background e e₁)
      (heq : e' = e₁.modifyTimeline t fun T =>
        (replenished T).emitEvent (.refetchFailed r.generation cause.message)) :
      Replenishes e k e' (.error cause)

theorem replenishes (e : Engine) (k : TaskId) (result : Except StorageError (List Item)) :
    Replenishes e k (e.completeTask k result) result := by
  unfold completeTask
  split
  · rename_i t r started aborted finished htask
    have hasks := asks_of_task htask
    have hb := background_finishTask e k
    have hkept : (e.finishTask k).isAlive (.timeline t) = e.isAlive (.timeline t) := by
      unfold isAlive
      rw [hb.timelines]
    dsimp only
    rw [hkept]
    split
    · rename_i halive
      unfold completeRefetch
      split
      · exact .background hb
      · rename_i hg
        rw [hb.timeline] at hg
        have hg := (Decidable.not_not.mp hg).symm
        cases result with
        | ok items =>
            dsimp only
            rw [modifyTimeline_modifyTimeline]
            exact .filled hasks halive hg hb rfl
        | error cause =>
            dsimp only
            rw [modifyTimeline_modifyTimeline]
            exact .failed hasks halive hg hb rfl
    · exact .background hb
  · exact .background (.refl e)

-- Operations.

omit [Patterns] in
theorem running_ne_waiting (request : FetchRequest) : Status.running ≠ .waiting request := nofun

omit [Patterns] in
theorem done_ne_waiting (result : Except TimelineError Outcome) (request : FetchRequest) :
    Status.done result ≠ .waiting request := nofun

theorem close_setStatus (e : Engine) (o : OperationId) (status status' : Status) :
    (e.setStatus o status).close o status' = e.close o status' := by
  unfold close setStatus
  cases hop : e.operations[o]? with
  | none => simp [hop, List.modify_eq_self (List.getElem?_eq_none_iff.mp hop)]
  | some operation => simp [hop, List.modify_modify_eq, Function.comp_def]

-- What an operation ends with whose answer comes too late.
def lateResult : OperationKind → Except StorageError (List Item) → Except TimelineError Outcome
  | .activation, _ => .ok .activated
  | .page, .ok _ => .ok .discarded
  | .page, .error cause => .error (.fetch cause)

-- What comes of it when storage answers an operation. It ends, unless an activation is to be rolled
-- back before that.
inductive Completes (e : Engine) (o : OperationId) (e' : Engine) :
    Except StorageError (List Item) → Prop
  | unasked {result : Except StorageError (List Item)}
      (hnone : ∀ t kind r, e.operations[o]? ≠ some ⟨t, kind, .waiting r⟩) (heq : e' = e) :
      Completes e o e' result
  -- the timeline is not told of it
  | ended {t : TimelineId} {kind : OperationKind} {r : FetchRequest}
      {result : Except StorageError (List Item)}
      (hop : e.operations[o]? = some ⟨t, kind, .waiting r⟩)
      (hwhy : r.generation ≠ (e.timeline t).generation ∨
        kind = .page ∧ ∃ cause, result = .error cause)
      (heq : e' = e.close o (.done (lateResult kind result))) : Completes e o e' result
  | merged {t : TimelineId} {kind : OperationKind} {r : FetchRequest} {items : List Item}
      {phase : Phase} {outcome : Outcome} (hop : e.operations[o]? = some ⟨t, kind, .waiting r⟩)
      (hg : r.generation = (e.timeline t).generation)
      (hphase : kind = .page ∧ phase = (e.timeline t).phase ∨ kind = .activation ∧ phase = .active)
      (heq : e' = (e.modifyTimeline t fun T =>
        (({ T with phase } : Timeline).absorb items).1).close o (.done (.ok outcome))) :
      Completes e o e' (.ok items)
  | rolledBack {t : TimelineId} {r : FetchRequest} {cause : StorageError}
      (hop : e.operations[o]? = some ⟨t, .activation, .waiting r⟩)
      (hg : r.generation = (e.timeline t).generation)
      (heq : e' = ((e.setStatus o .running).teardown t).2.push
        (deactivations (e.timeline t).activated ++ [.finish o (.error (.fetch cause))])) :
      Completes e o e' (.error cause)

theorem complete_late {o : OperationId} {t : TimelineId} {kind : OperationKind} {r : FetchRequest}
    (hop : e.operations[o]? = some ⟨t, kind, .waiting r⟩)
    (hlate : r.generation ≠ (e.timeline t).generation)
    (result : Except StorageError (List Item)) :
    e.complete o result = e.close o (.done (lateResult kind result)) := by
  have hpast : ((e.setStatus o .running).timeline t).generation ≠ r.generation := Ne.symm hlate
  simp only [complete, hop]
  cases kind with
  | activation =>
      simp only [completeActivation, if_pos hpast]
      exact close_setStatus ..
  | page =>
      cases result with
      | error cause => exact close_setStatus ..
      | ok items =>
          simp only [completePage, if_pos hpast]
          exact close_setStatus ..

theorem completes (e : Engine) (o : OperationId) (result : Except StorageError (List Item)) :
    Completes e o (e.complete o result) result := by
  have hmerged (t : TimelineId) (f : Timeline → Timeline) (status : Status) :
      ((e.setStatus o .running).modifyTimeline t f).close o status =
        (e.modifyTimeline t f).close o status :=
    close_setStatus (e.modifyTimeline t f) o .running status
  by_cases hwaits : ∃ t kind r, e.operations[o]? = some ⟨t, kind, .waiting r⟩
  · obtain ⟨t, kind, r, hop⟩ := hwaits
    by_cases hg : r.generation = (e.timeline t).generation
    · have hnow : ¬ ((e.setStatus o .running).timeline t).generation ≠ r.generation :=
        not_not_intro hg.symm
      simp only [complete, hop]
      cases kind with
      | activation =>
          simp only [completeActivation, if_neg hnow]
          cases result with
          | ok items => exact .merged hop hg (.inr ⟨rfl, rfl⟩) (hmerged ..)
          | error cause =>
              refine .rolledBack hop hg ?_
              rw [teardown_eq]
              rfl
      | page =>
          cases result with
          | error cause => exact .ended hop (.inr ⟨rfl, cause, rfl⟩) (close_setStatus ..)
          | ok items =>
              have hmerge : (e.modifyTimeline t fun _ => ((e.timeline t).absorb items).1) =
                  e.modifyTimeline t fun T =>
                    (({ T with phase := (e.timeline t).phase } : Timeline).absorb items).1 :=
                modifyTimeline_congr rfl
              simp only [completePage, if_neg hnow]
              exact .merged hop hg (.inl ⟨rfl, rfl⟩)
                ((hmerged ..).trans (congrArg (Engine.close · o _) hmerge))
    · exact .ended hop (.inl hg) (complete_late hop hg result)
  · simp only [not_exists] at hwaits
    refine .unasked hwaits ?_
    unfold complete
    split
    · exact absurd ‹_› (hwaits _ _ _)
    · rfl

end FilteredFeed.Engine
