import FilteredFeed.Proofs.Engine.Answers
import FilteredFeed.Proofs.Engine.Pages

namespace FilteredFeed.Engine

open FilteredFeed.Feed FilteredFeed.Filter FilteredFeed.Listener FilteredFeed.Timeline
open FilteredFeed.Scenario (Asker)

variable [Patterns]
variable {e e' e'' : Engine} {t : TimelineId} {o o' : OperationId} {q : QueryId} {m : Move}
variable {f : Frame} {rest frames frames' : List Frame}

-- The operation that a frame is to let wait, or to end.
def Frame.operation : Frame → Option OperationId
  | .attach _ _ _ (.activation o _) | .finish o _ => some o
  | _ => none

-- The frames that are to go on with an operation.
def conducting (e : Engine) : List Frame := e.stack.filter (·.operation.isSome)

-- Operations stay as they are, and so do the calls that are to go on with them.
structure Aloof (e e' : Engine) : Prop where
  operations : e'.operations = e.operations
  conducting : e'.conducting = e.conducting

namespace Aloof

theorem refl (e : Engine) : Aloof e e := ⟨rfl, rfl⟩

theorem trans (h : Aloof e e') (h' : Aloof e' e'') : Aloof e e'' :=
  ⟨h'.operations.trans h.operations, h'.conducting.trans h.conducting⟩

end Aloof

theorem aloof_of_stack (ho : e'.operations = e.operations) (hs : e'.stack = e.stack) :
    Aloof e e' := ⟨ho, by unfold conducting; rw [hs]⟩

theorem Aloof.mem (h : Aloof e e') (hf : f.operation.isSome = true) :
    f ∈ e'.stack ↔ f ∈ e.stack := by
  have hmem (e : Engine) : f ∈ e.conducting ↔ f ∈ e.stack := by
    simp [Engine.conducting, hf]
  rw [← hmem e', ← hmem e, h.conducting]

theorem Apart.aloof (h : Apart t e e') : Aloof e e' := aloof_of_stack h.operations h.stack

theorem Within.aloof (h : Within t e e') : Aloof e e' := h.toApart.aloof

theorem Background.aloof (h : Background e e') : Aloof e e' := aloof_of_stack h.operations h.stack

theorem aloof_pushed (h : Aloof e e')
    (hframes : frames'.filter (·.operation.isSome) = frames.filter (·.operation.isSome)) :
    Aloof (e.push frames) (e'.push frames') := by
  refine ⟨h.operations, ?_⟩
  unfold conducting push
  rw [List.filter_append, List.filter_append, hframes]
  exact congrArg (_ ++ ·) h.conducting

omit [Patterns] in
theorem filter_operation (h : ∀ f ∈ frames, f.operation = none) :
    frames.filter (·.operation.isSome) = [] :=
  List.filter_eq_nil_iff.mpr fun f hf => by simp [h f hf]

theorem aloof_push (e : Engine) (h : ∀ f ∈ frames, f.operation = none) :
    Aloof e (e.push frames) := by
  show Aloof (e.push []) (e.push frames)
  exact aloof_pushed (.refl e) (filter_operation h)

omit [Patterns] in
theorem operation_deactivations (activated : Option QueryId) :
    ∀ f ∈ deactivations activated, f.operation = none := by
  intro f hf
  cases activated with
  | none => cases hf
  | some q =>
      rw [List.mem_singleton.mp hf]
      rfl

theorem aloof_popped (hs : e.stack = f :: rest) (hf : f.operation = none) :
    Aloof e { e with stack := rest } := by
  refine ⟨rfl, ?_⟩
  simp [conducting, hs, hf]

theorem aloof_retain (e : Engine) (target : Target) : Aloof e (e.retain target) := by
  cases target <;> exact aloof_of_stack rfl rfl

theorem aloof_hold (e : Engine) (t : TimelineId) : Aloof e (e.hold t) :=
  (aloof_retain e _).trans (aloof_push _ (by simp [Frame.operation]))

theorem aloof_retainAll (e : Engine) (targets : List Target) : Aloof e (e.retainAll targets) := by
  induction targets generalizing e with
  | nil => exact .refl e
  | cons target targets ih => exact (aloof_retain e target).trans (ih _)

theorem aloof_modifyQuery (e : Engine) (q : QueryId) (g : Query Target → Query Target) :
    Aloof e (e.modifyQuery q g) := aloof_of_stack rfl rfl

theorem aloof_toggled (e : Engine) (q : QueryId) : Aloof e (e.toggled q) := by
  unfold toggled
  split
  · exact .refl e
  · exact aloof_push e (by simp [Frame.operation])

theorem aloof_removeActivation (e : Engine) (q : QueryId) : Aloof e (e.removeActivation q) := by
  unfold removeActivation
  split
  · exact (aloof_modifyQuery ..).trans (aloof_toggled ..)
  · exact .refl e

theorem aloof_resumed (hs : e.stack = f :: rest) (hf : f.operation = none) (q : QueryId)
    (g : Registry Target → Registry Target) (targets : List Target)
    (hframes : ∀ f ∈ frames, f.operation = none) : Aloof e (e.resumed q g targets frames rest) := by
  refine (aloof_popped hs hf).trans (Aloof.trans ?_ (aloof_push _ hframes))
  exact (aloof_modifyQuery ..).trans (aloof_retainAll _ targets)

omit [Patterns] in
theorem operation_roundFrames (q : QueryId) (next : Registry.Next Target) :
    ∀ f ∈ roundFrames q next, f.operation = none := by
  cases next <;> simp [roundFrames, Frame.operation]

theorem aloof_release (e : Engine) (target : Target) : Aloof e (e.release target) := by
  cases target with
  | observer o => exact aloof_of_stack rfl rfl
  | timeline t =>
      have hdropped : Aloof e (e.dropHold t) := aloof_of_stack rfl rfl
      rw [release_eq]
      split
      · exact (hdropped.trans (apart_teardown _ t).aloof).trans
          (aloof_push _ (operation_deactivations _))
      · exact hdropped

-- An operation ends, and nothing happens to the others.
theorem aloof_close (e : Engine) (o : OperationId) (status : Status) :
    Aloof (e.setStatus o status) (e.close o status) := by
  unfold close
  split
  · exact aloof_release ..
  · rename_i hnone
    refine aloof_of_stack ?_ rfl
    exact (List.modify_eq_self (List.getElem?_eq_none_iff.mp hnone)).symm

theorem aloof_deactivate (e : Engine) (t : TimelineId) : Aloof e (e.deactivate t) := by
  unfold deactivate
  split
  · exact (apart_teardown e t).aloof.trans (aloof_push _ (operation_deactivations _))
  · exact .refl e

theorem aloof_invalidate (e : Engine) (t : TimelineId) : Aloof e (e.invalidate t) := by
  unfold invalidate
  split
  · exact .refl e
  · exact (within_invalidateNow e t).aloof

theorem aloof_dispose (e : Engine) (t : TimelineId) : Aloof e (e.dispose t) := by
  rw [dispose_eq]
  split
  · exact .refl e
  · refine ((apart_endWork e t).aloof.trans (within_modifyTimeline _ t ended).aloof).trans
      (aloof_push _ fun f hf => ?_)
    rcases List.mem_append.mp hf with hf | hf
    · exact operation_deactivations _ f hf
    · rw [List.mem_singleton.mp hf]
      rfl

theorem operation_attachment (T : Timeline) (t : TimelineId) (query : Option QueryId) :
    ∀ f ∈ attachment T t query, f.operation = none := by
  unfold attachment
  split
  · split <;> simp [Frame.operation]
  · simp

theorem aloof_setQuery (e : Engine) (t : TimelineId) (query : Option QueryId) :
    Aloof e (e.setQuery t query).2 := by
  rw [setQuery_eq]
  split
  · exact .refl e
  · have hleft := apart_leaveQuery e t query
    refine (hleft.aloof.trans (within_invalidateNow _ t).aloof).trans (aloof_push _ fun f hf => ?_)
    rcases List.mem_append.mp hf with hf | hf
    · exact operation_deactivations _ f hf
    · exact operation_attachment _ t query f hf

theorem aloof_completeTask (e : Engine) (k : TaskId) (result : Except StorageError (List Item)) :
    Aloof e (e.completeTask k result) := by
  cases replenishes e k result with
  | background hb => exact hb.aloof
  | filled hasks halive hg hb heq | failed hasks halive hg hb heq =>
      rw [heq]
      exact hb.aloof.trans (within_modifyTimeline ..).aloof

theorem aloof_turn (e : Engine) (k : TaskId) : Aloof e (e.turn k) := by
  cases polls e k with
  | background hb => exact hb.aloof
  | offered htask halive hitem hb heq =>
      rw [heq]
      exact hb.aloof.trans (within_offer ..).aloof
  | lagged htask halive hactive hmissed hb heq =>
      rw [heq]
      exact hb.aloof.trans (within_startRefetch ..).aloof

theorem waiting_of_awaits (h : e.awaits (.operation o) = true) :
    ∃ t kind request, e.operations[o]? = some ⟨t, kind, .waiting request⟩ := by
  unfold awaits at h
  dsimp only at h
  split at h
  · rename_i t kind request hop
    exact ⟨t, kind, request, hop⟩
  · cases h

theorem asks_of_waiting {kind : OperationKind} {r : FetchRequest}
    (h : e.operations[o]? = some ⟨t, kind, .waiting r⟩) : e.asks (.operation o) = some (t, r) := by
  simp only [asks, h]

-- Whether a move ends the waiting of an operation.
def Move.settles (o : OperationId) : Move → Bool
  | .cancel o' | .answer (.operation o') _ => o' == o
  | _ => false

-- What becomes of the operations in one move, and of the calls that are to go on with them.
inductive Conducts (e : Engine) : Move → Engine → Prop
  | aloof {m : Move} {e' : Engine}
      (hm : ∀ o, m.settles o = true → e.awaits (.operation o) = false) (h : Aloof e e') :
      Conducts e m e'
  -- an activation has attached its timeline, and waits for storage
  | awaited {t : TimelineId} {q : QueryId} {o : OperationId} {rest : List Frame} {r : FetchRequest}
      {e' : Engine}
      (hs : e.stack = .attach t q (e.timeline t).epoch (.activation o (e.timeline t).generation) :: rest)
      (hr : r.generation = (e.timeline t).generation)
      (h : Aloof (({ e with stack := rest } : Engine).setStatus o (.waiting r)) e') :
      Conducts e .step e'
  -- an activation finds that its timeline has moved on
  | yielded {t : TimelineId} {q : QueryId} {epoch : Nat} {o : OperationId} {generation : Nat}
      {rest : List Frame} {e' : Engine}
      (hs : e.stack = .attach t q epoch (.activation o generation) :: rest)
      (hpast : (e.timeline t).epoch ≠ epoch ∨ (e.timeline t).generation ≠ generation)
      (h : Aloof (({ e with stack := rest } : Engine).push [.finish o (.ok .activated)]) e') :
      Conducts e .step e'
  | finished {o : OperationId} {result : Except TimelineError Outcome} {rest : List Frame}
      {e' : Engine} (hs : e.stack = .finish o result :: rest)
      (h : Aloof (({ e with stack := rest } : Engine).setStatus o (.done result)) e') :
      Conducts e .step e'
  -- an operation is begun
  | refused {m : Move} {t : TimelineId} {kind : OperationKind}
      {result : Except TimelineError Outcome} {e' : Engine} (hm : m.begins = some t)
      (h : Aloof { e with operations := e.operations ++ [⟨t, kind, .done result⟩] } e') :
      Conducts e m e'
  | requested {m : Move} {t : TimelineId} {kind : OperationKind} {r : FetchRequest} {e' : Engine}
      (hm : m.begins = some t) (hr : r.generation = (e'.timeline t).generation)
      (hkind : kind = .activation →
        (e.timeline t).phase = .inactive ∧ (e'.timeline t).phase = .activating)
      (h : Aloof { e with operations := e.operations ++ [⟨t, kind, .waiting r⟩] } e') :
      Conducts e m e'
  | attaching {t : TimelineId} {q : QueryId} {epoch : Nat} {e' : Engine} (hs : e.stack = [])
      (hphase : (e.timeline t).phase = .inactive) (hphase' : (e'.timeline t).phase = .activating)
      (hepoch : epoch = (e'.timeline t).epoch)
      (h : Aloof (({ e with operations := e.operations ++ [⟨t, .activation, .running⟩] } : Engine).push
        [.attach t q epoch (.activation e.operations.length (e'.timeline t).generation)]) e') :
      Conducts e (.startActivation t true) e'
  -- storage answers an operation
  | answered {o : OperationId} {result : Except StorageError (List Item)}
      {outcome : Except TimelineError Outcome} {e' : Engine}
      (hawaits : e.awaits (.operation o) = true)
      (h : Aloof (e.setStatus o (.done outcome)) e') : Conducts e (.answer (.operation o) result) e'
  | failing {o : OperationId} {cause : StorageError} {e' : Engine}
      (hawaits : e.awaits (.operation o) = true) (hs : e.stack = [])
      (h : Aloof ((e.setStatus o .running).push [.finish o (.error (.fetch cause))]) e') :
      Conducts e (.answer (.operation o) (.error cause)) e'
  -- the operation is dropped
  | cancelled {o : OperationId} {e' : Engine} (hawaits : e.awaits (.operation o) = true)
      (h : Aloof (e.setStatus o .cancelled) e') : Conducts e (.cancel o) e'

theorem Conducts.idle (hm : ∀ o, m.settles o = false) (h : Aloof e e') : Conducts e m e' :=
  .aloof (fun o hsettles => Bool.noConfusion (hsettles.symm.trans (hm o))) h

theorem aloof_setStatus (h : Aloof e e') (o : OperationId) (status : Status) :
    Aloof (e.setStatus o status) (e'.setStatus o status) :=
  ⟨congrArg (List.modify · o _) h.operations, h.conducting⟩

theorem conducts_attach {epoch : Nat} {purpose : Purpose}
    (hs : e.stack = .attach t q epoch purpose :: rest) :
    Conducts e .step (({ e with stack := rest } : Engine).attach t q epoch purpose) := by
  have henrol := (apart_enrol { e with stack := rest } t q).aloof
  cases purpose with
  | swap =>
      refine .idle (fun _ => rfl) ((aloof_popped hs rfl).trans ?_)
      rw [attach_eq]
      split
      · exact aloof_push _ (by simp [Frame.operation])
      · exact henrol.trans (within_refresh _ t).aloof
  | activation o generation =>
      rw [attach_eq]
      split
      · rename_i hepoch
        refine .yielded hs (.inl hepoch) ⟨rfl, ?_⟩
        simp [conducting, push, Frame.operation]
      · rename_i hepoch
        have hgeneration := generation_enrol { e with stack := rest } t q
        obtain rfl : (e.timeline t).epoch = epoch := Decidable.not_not.mp hepoch
        dsimp only
        rw [prepare_eq, hgeneration]
        split
        · rename_i hpast
          exact .yielded hs (.inr hpast) (aloof_pushed henrol rfl)
        · rename_i hnow
          obtain rfl : (e.timeline t).generation = generation := Decidable.not_not.mp hnow
          refine .awaited hs ?_ (aloof_setStatus (henrol.trans (within_prepared _ t).aloof) o _)
          rfl

theorem conducts_step (hallows : e.allows .step = true) : Conducts e .step (e.after .step) := by
  obtain ⟨f, rest, hs, hobserver, hafter⟩ := after_step hallows
  rw [hafter]
  cases f with
  | activate q =>
      refine .idle (fun _ => rfl) ((aloof_popped hs rfl).trans ?_)
      exact (aloof_modifyQuery ..).trans (aloof_toggled ..)
  | deactivate q => exact .idle (fun _ => rfl) ((aloof_popped hs rfl).trans (aloof_removeActivation _ q))
  | announce q revision =>
      obtain ⟨targets, heq⟩ := announce_eq_resumed e q revision rest
      change Conducts e .step (({ e with stack := rest } : Engine).announce q revision)
      rw [heq]
      refine .idle (fun _ => rfl) (aloof_resumed hs rfl q _ targets ?_)
      split <;> simp [Frame.operation]
  | rounds q =>
      change Conducts e .step (({ e with stack := rest } : Engine).continueRounds q)
      rw [continueRounds_eq]
      exact .idle (fun _ => rfl) (aloof_resumed hs rfl q _ _ (operation_roundFrames q _))
  | call target revision =>
      refine .idle (fun _ => rfl) ((aloof_popped hs rfl).trans ?_)
      cases target with
      | timeline t => exact (within_onInvalidated _ t revision).aloof
      | observer o => exact aloof_push _ (by simp [Frame.operation])
  | observer o revision => cases hobserver
  | release target => exact .idle (fun _ => rfl) ((aloof_popped hs rfl).trans (aloof_release _ target))
  | attach t q epoch purpose => exact conducts_attach hs
  | emit t delta => exact .idle (fun _ => rfl) ((aloof_popped hs rfl).trans (within_emit _ t delta).aloof)
  | finish o result => exact .finished hs (aloof_close _ o _)

omit [Patterns] in
theorem setStatus_begun (operations : List Operation) (t : TimelineId) (kind : OperationKind)
    (status status' : Status) :
    (operations ++ [(⟨t, kind, status⟩ : Operation)]).modify operations.length
        (fun op => { op with status := status' }) = operations ++ [⟨t, kind, status'⟩] := by
  induction operations with
  | nil => rfl
  | cons operation operations ih => simpa using ih

theorem aloof_addOperation (e : Engine) (t : TimelineId) (kind : OperationKind) :
    Aloof { e with operations := e.operations ++ [⟨t, kind, .running⟩] }
      (e.addOperation t kind).2 := aloof_of_stack rfl rfl

-- An operation is begun, and has come to some status.
theorem aloof_begun (e : Engine) (t : TimelineId) (kind : OperationKind) (status : Status) :
    Aloof { e with operations := e.operations ++ [⟨t, kind, status⟩] }
      ((e.addOperation t kind).2.setStatus e.operations.length status) :=
  ⟨setStatus_begun e.operations t kind .running status, rfl⟩

theorem conducts_refused {kind : OperationKind} {result : Except TimelineError Outcome}
    (hm : m.begins = some t) :
    Conducts e m ((e.addOperation t kind).2.close e.operations.length (.done result)) :=
  .refused hm ((aloof_begun e t kind _).trans (aloof_close ..))

theorem conducts_startPage (e : Engine) (t : TimelineId) (before : Option ItemId) (limit : Nat) :
    Conducts e (.startPage t before limit) (e.startPage t before limit).2 := by
  unfold startPage
  dsimp only
  split
  · exact conducts_refused rfl
  · refine .requested rfl rfl (fun hkind => ?_) (aloof_begun e t .page _)
    cases hkind

theorem phase_prepared (ht : t < e.timelines.length) :
    ((e.prepared t).timeline t).phase = (e.timeline t).phase := by
  rcases timeline_prepared ht with ⟨-, hT⟩ | ⟨-, events, hT⟩
  · rw [hT]
  · rw [hT]

theorem aloof_launch (e : Engine) (t : TimelineId) : Aloof e (e.launch t) := aloof_of_stack rfl rfl

-- An activation that goes on is to attach its timeline, or waits for storage if there is nothing to
-- attach to.
inductive Launches (e : Engine) (t : TimelineId) (e' : Engine) : Prop
  | attaching {q : QueryId}
      (h : Aloof (({ e with operations := e.operations ++ [⟨t, .activation, .running⟩] } : Engine).push
        [.attach t q (e'.timeline t).epoch
          (.activation e.operations.length (e'.timeline t).generation)]) e')
  | requested {r : FetchRequest} (hr : r.generation = (e'.timeline t).generation)
      (h : Aloof { e with operations := e.operations ++ [⟨t, .activation, .waiting r⟩] } e')

theorem launches_startActivation (ht : t < e.timelines.length)
    (hphase : (e.timeline t).phase = .inactive) :
    Launches e t (e.startActivation t true).2 ∧
      ((e.startActivation t true).2.timeline t).phase = .activating := by
  rcases startActivation_cases e t true with ⟨-, -, heq⟩ | ⟨hnot | hnot, -⟩
  · rw [heq]
    have hadded := aloof_addOperation e t .activation
    have hbegun := aloof_begun e t .activation
    have ht' : t < (e.addOperation t .activation).2.timelines.length :=
      (calm_addOperation Nothing e t .activation).size ▸ ht
    generalize (e.addOperation t .activation).2 = e₁ at hadded hbegun ht' ⊢
    have hT := timeline_launch ht'
    have hgeneration : ((e₁.launch t).timeline t).generation = (e₁.timeline t).generation + 1 := by
      rw [hT]
    have hepoch : ((e₁.launch t).timeline t).epoch = (e₁.timeline t).epoch := by
      rw [hT]
    have hphase' : ((e₁.launch t).timeline t).phase = .activating := by
      rw [hT]
    have hlaunch := aloof_launch e₁ t
    unfold launched
    split
    · rename_i q hq
      rw [← hgeneration, ← hepoch]
      exact ⟨.attaching (q := q) (aloof_pushed (hadded.trans hlaunch) rfl), hphase'⟩
    · have hsize : t < (e₁.launch t).timelines.length :=
        (changes_launch Nothing e₁ t).size ▸ ht'
      rw [prepare_eq, if_neg (not_not_intro hgeneration)]
      refine ⟨.requested ?_ ((hbegun _).trans
        (aloof_setStatus (hlaunch.trans (within_prepared _ t).aloof) _ _)), ?_⟩
      · exact hgeneration.symm.trans (generation_prepared (e₁.launch t) t t).symm
      · exact (phase_prepared hsize).trans hphase'
  · exact absurd hphase hnot
  · cases hnot

theorem conducts_startActivation (hs : e.stack = []) (ht : t < e.timelines.length)
    (hasRuntime : Bool) :
    Conducts e (.startActivation t hasRuntime) (e.startActivation t hasRuntime).2 := by
  rcases startActivation_cases e t hasRuntime with ⟨hphase, rfl, -⟩ | ⟨-, result, heq⟩
  · obtain ⟨hlaunches, hphase'⟩ := launches_startActivation ht hphase
    cases hlaunches with
    | attaching h => exact .attaching hs hphase hphase' rfl h
    | requested hr h => exact .requested rfl hr (fun _ => ⟨hphase, hphase'⟩) h
  · rw [heq]
    exact conducts_refused rfl

theorem conducts_complete {result : Except StorageError (List Item)} (hs : e.stack = [])
    (hawaits : e.awaits (.operation o) = true) :
    Conducts e (.answer (.operation o) result) (e.complete o result) := by
  cases completes e o result with
  | unasked hnone heq =>
      obtain ⟨t, kind, r, hop⟩ := waiting_of_awaits hawaits
      exact absurd hop (hnone t kind r)
  | ended hop hwhy heq =>
      rw [heq]
      exact .answered hawaits (aloof_close e o _)
  | merged hop hg hphase heq =>
      rw [heq]
      exact .answered hawaits
        ((aloof_setStatus (within_modifyTimeline ..).aloof o _).trans (aloof_close ..))
  | rolledBack hop hg heq =>
      rw [heq]
      refine .failing hawaits hs (aloof_pushed (apart_teardown ..).aloof ?_)
      rw [List.filter_append, filter_operation (operation_deactivations _)]
      rfl

theorem conducts_cancel (hawaits : e.awaits (.operation o) = true) :
    Conducts e (.cancel o) (e.cancel o) := by
  obtain ⟨t, kind, request, hop⟩ := waiting_of_awaits hawaits
  simp only [cancel, hop]
  exact .cancelled hawaits (aloof_close ..)

theorem conducts_after (hallows : e.allows m = true) : Conducts e m (e.after m) := by
  cases m with
  | step => exact conducts_step hallows
  | leaveObserver =>
      refine .idle (fun _ => rfl) ?_
      change Aloof e e.leaveObserver
      unfold leaveObserver
      split
      · rename_i hs
        exact aloof_popped hs rfl
      · exact .refl e
  | addQuery | addChannel | compile | listen | unsubscribe | releaseObserver | takeUnread =>
      exact .idle (fun _ => rfl) (aloof_of_stack rfl rfl)
  | setExpression q expr =>
      exact .idle (fun _ => rfl) ((aloof_modifyQuery ..).trans (aloof_push _ (by simp [Frame.operation])))
  | setSource q text =>
      exact .idle (fun _ => rfl) ((aloof_modifyQuery ..).trans (aloof_push _ (by simp [Frame.operation])))
  | activateQuery q => exact .idle (fun _ => rfl) (aloof_push _ (by simp [Frame.operation]))
  | deactivateQuery q => exact .idle (fun _ => rfl) (aloof_push _ (by simp [Frame.operation]))
  | addTimeline config storage stream query hasSink =>
      have hadded (new : Timeline) : Aloof e { e with timelines := e.timelines ++ [new] } :=
        aloof_of_stack rfl rfl
      exact .idle (fun _ => rfl) ((hadded _).trans (within_recompile _ _).aloof)
  | retain t => exact .idle (fun _ => rfl) (aloof_retain e (.timeline t))
  | drop t => exact .idle (fun _ => rfl) (aloof_release e (.timeline t))
  | deactivate t => exact .idle (fun _ => rfl) ((aloof_hold e t).trans (aloof_deactivate _ t))
  | invalidate t => exact .idle (fun _ => rfl) ((aloof_hold e t).trans (aloof_invalidate _ t))
  | dispose t => exact .idle (fun _ => rfl) ((aloof_hold e t).trans (aloof_dispose _ t))
  | setQuery t query => exact .idle (fun _ => rfl) ((aloof_hold e t).trans (aloof_setQuery _ t query))
  | accepts t item =>
      refine .idle (fun _ => rfl) ?_
      change Aloof e (e.currentFilter t).2
      unfold currentFilter
      split
      · split <;> exact aloof_of_stack rfl rfl
      · exact .refl e
  | offer t item => exact .idle (fun _ => rfl) (within_offer e t item).aloof
  | publish s item => exact .idle (fun _ => rfl) (background_publish e s item).aloof
  | closeStream s => exact .idle (fun _ => rfl) (background_closeStream e s).aloof
  | startActivation t hasRuntime =>
      exact conducts_startActivation (stack_of_allows hallows) (isAlive_of_allows hallows) hasRuntime
  | startPage t before limit => exact conducts_startPage e t before limit
  | answer asker result =>
      have hawaits := (Bool.and_eq_true_iff.mp hallows).2
      cases asker with
      | operation o => exact conducts_complete (stack_of_allows hallows) hawaits
      | task k => exact .idle (fun _ => rfl) (aloof_completeTask e k result)
  | cancel o => exact conducts_cancel (Bool.and_eq_true_iff.mp hallows).2
  | wake k => exact .idle (fun _ => rfl) (background_wake e k).aloof
  | nextTask => exact .idle (fun _ => rfl) (background_nextTask e).aloof
  | turn k => exact .idle (fun _ => rfl) (aloof_turn e k)

-- Calls go on with one operation at most, and it does not wait meanwhile.
structure Engaged (e : Engine) : Prop where
  single : e.conducting.length ≤ 1
  running : ∀ f ∈ e.conducting, ∀ o, f.operation = some o →
    ∃ operation, e.operations[o]? = some operation ∧ operation.status = .running
  attaching : ∀ t q epoch o generation,
    .attach t q epoch (.activation o generation) ∈ e.conducting →
      e.operations[o]? = some ⟨t, .activation, .running⟩

theorem engaged_init : Engaged {} where
  single := Nat.zero_le 1
  running f hf := by cases hf
  attaching t q epoch o generation hf := by cases hf

theorem Aloof.engaged (haloof : Aloof e e') (h : Engaged e) : Engaged e' where
  single := haloof.conducting ▸ h.single
  running := by
    rw [haloof.conducting, haloof.operations]
    exact h.running
  attaching := by
    rw [haloof.conducting, haloof.operations]
    exact h.attaching

theorem engaged_of_none (h : e.conducting = []) : Engaged e where
  single := by simp [h]
  running f hf := by
    rw [h] at hf
    cases hf
  attaching t q epoch o generation hf := by
    rw [h] at hf
    cases hf

theorem conducting_push_single (hnone : e.conducting = []) (hf : f.operation = some o) :
    (e.push [f]).conducting = [f] := by
  rw [conducting, push, List.filter_append, show e.stack.filter _ = [] from hnone]
  simp [hf]

theorem engaged_finish (hnone : e.conducting = []) (result : Except TimelineError Outcome)
    (hop : ∃ operation, e.operations[o]? = some operation ∧ operation.status = .running) :
    Engaged (e.push [.finish o result]) := by
  have hlast : (e.push [.finish o result]).conducting = [.finish o result] :=
    conducting_push_single hnone rfl
  refine ⟨by simp [hlast], fun f hf o' ho' => ?_, fun t q epoch o' generation hf => ?_⟩
  · rw [hlast, List.mem_singleton] at hf
    obtain rfl := hf
    obtain rfl := Option.some.inj ho'
    exact hop
  · rw [hlast, List.mem_singleton] at hf
    cases hf

theorem engaged_attach (hnone : e.conducting = []) (q : QueryId) (epoch generation : Nat)
    (hop : e.operations[o]? = some ⟨t, .activation, .running⟩) :
    Engaged (e.push [.attach t q epoch (.activation o generation)]) := by
  have hlast : (e.push [.attach t q epoch (.activation o generation)]).conducting =
      [.attach t q epoch (.activation o generation)] := conducting_push_single hnone rfl
  refine ⟨by simp [hlast], fun f hf o' ho' => ?_, fun t' q' epoch' o' generation' hf => ?_⟩
  · rw [hlast, List.mem_singleton] at hf
    obtain rfl := hf
    obtain rfl := Option.some.inj ho'
    exact ⟨_, hop, rfl⟩
  · rw [hlast, List.mem_singleton] at hf
    cases hf
    exact hop

theorem Engaged.keeps (h : Engaged e) {operations : List Operation}
    (hkept : ∀ (o : OperationId) operation, e.operations[o]? = some operation →
      operation.status = .running → operations[o]? = some operation) :
    Engaged { e with operations } where
  single := h.single
  running f hf o ho := by
    obtain ⟨operation, hop, hrunning⟩ := h.running f hf o ho
    exact ⟨operation, hkept o operation hop hrunning, hrunning⟩
  attaching t q epoch o generation hf := hkept o _ (h.attaching t q epoch o generation hf) rfl

theorem Engaged.popped (h : Engaged e) (hs : e.stack = f :: rest)
    (hf : f.operation.isSome = true) : rest.filter (·.operation.isSome) = [] := by
  have hsingle := h.single
  rw [conducting, hs, List.filter_cons, if_pos hf, List.length_cons] at hsingle
  exact List.length_eq_zero_iff.mp (Nat.le_zero.mp (Nat.le_of_succ_le_succ hsingle))

theorem Engaged.eq_head (h : Engaged e) (hs : e.stack = f :: rest)
    (hf : f.operation.isSome = true) {f' : Frame} (hmem : f' ∈ e.stack)
    (hf' : f'.operation.isSome = true) : f' = f := by
  rw [hs] at hmem
  rcases List.mem_cons.mp hmem with heq | hmem
  · exact heq
  · have hlast : f' ∈ rest.filter (·.operation.isSome) := List.mem_filter.mpr ⟨hmem, hf'⟩
    rw [h.popped hs hf] at hlast
    cases hlast

theorem mem_conducting (hs : e.stack = f :: rest) (hf : f.operation.isSome = true) :
    f ∈ e.conducting := by
  rw [conducting, hs, List.filter_cons, if_pos hf]
  exact List.mem_cons_self

theorem conducting_of_stack (hs : e.stack = []) : e.conducting = [] := by
  unfold conducting
  rw [hs]
  rfl

omit [Patterns] in
theorem getElem?_begun {operations : List Operation} {operation : Operation}
    (hop : operations[o]? = some operation) (new : Operation) :
    (operations ++ [new])[o]? = some operation :=
  (List.getElem?_append_left (List.getElem?_eq_some_iff.mp hop).1).trans hop

omit [Patterns] in
theorem before_or_begun {operations : List Operation} {operation new : Operation}
    (hop : (operations ++ [new])[o]? = some operation) :
    operations[o]? = some operation ∨ o = operations.length ∧ new = operation := by
  rcases Nat.lt_trichotomy o operations.length with hlt | rfl | hgt
  · rw [List.getElem?_append_left hlt] at hop
    exact .inl hop
  · exact .inr ⟨rfl, Option.some.inj (List.getElem?_concat_length.symm.trans hop)⟩
  · rw [List.getElem?_eq_none (by simpa using Nat.succ_le_of_lt hgt)] at hop
    cases hop

theorem getElem?_setStatus_ne (hne : o' ≠ o) (e : Engine) (status : Status) :
    (e.setStatus o' status).operations[o]? = e.operations[o]? := by
  simp [setStatus, hne]

theorem getElem?_setStatus_self {kind : OperationKind} {status : Status}
    (hop : e.operations[o]? = some ⟨t, kind, status⟩) (status' : Status) :
    (e.setStatus o status').operations[o]? = some ⟨t, kind, status'⟩ := by
  simp [setStatus, hop]

-- An operation that waits is not the one with which the calls go on.
theorem Engaged.setStatus (h : Engaged e) (hawaits : e.awaits (.operation o) = true)
    (status : Status) : Engaged (e.setStatus o status) := by
  obtain ⟨t, kind, request, hwaiting⟩ := waiting_of_awaits hawaits
  refine h.keeps fun o' operation hop hrunning => ?_
  have hne : o ≠ o' := by
    rintro rfl
    obtain rfl := Option.some.inj (hwaiting.symm.trans hop)
    cases hrunning
  exact (getElem?_setStatus_ne hne e status).trans hop

theorem Engaged.conducts (h : Engaged e) (hc : Conducts e m e') : Engaged e' := by
  cases hc with
  | aloof hm h' => exact h'.engaged h
  | awaited hs hr h' | finished hs h' => exact h'.engaged (engaged_of_none (h.popped hs rfl))
  | @yielded t q epoch o generation rest e' hs hpast h' =>
      have hrunning := h.running _ (mem_conducting hs rfl) o rfl
      exact h'.engaged (engaged_finish (h.popped hs rfl) _ hrunning)
  | refused hm h' | requested hm hr hkind h' =>
      exact h'.engaged (h.keeps fun o operation hop _ => getElem?_begun hop _)
  | attaching hs hphase hphase' hepoch h' =>
      refine h'.engaged (engaged_attach ?_ _ _ _ List.getElem?_concat_length)
      exact conducting_of_stack hs
  | answered hawaits h' | cancelled hawaits h' => exact h'.engaged (h.setStatus hawaits _)
  | failing hawaits hs h' =>
      obtain ⟨t, kind, request, hwaiting⟩ := waiting_of_awaits hawaits
      refine h'.engaged (engaged_finish ?_ _ ⟨_, getElem?_setStatus_self hwaiting .running, rfl⟩)
      exact conducting_of_stack hs

theorem IsReached.engaged (h : IsReached e) : Engaged e := by
  obtain ⟨moves, hruns, rfl⟩ := h
  exact hruns.induction engaged_init fun _ _ h hallows _ => h.conducts (conducts_after hallows)

-- An operation that does not go on by itself stays as it is, unless it waits and storage answers it or
-- it is dropped.
theorem Engaged.stays (h : Engaged e) (hc : Conducts e m e') {operation : Operation}
    (hop : e.operations[o]? = some operation) (hrunning : operation.status ≠ .running)
    (hm : e.awaits (.operation o) = true → m.settles o = false) :
    e'.operations[o]? = some operation := by
  have hconducted {f : Frame} {rest : List Frame} {o' : OperationId} (hs : e.stack = f :: rest)
      (ho' : f.operation = some o') : o' ≠ o := by
    rintro rfl
    obtain ⟨operation', hop', hrunning'⟩ := h.running f (mem_conducting hs (by simp [ho'])) o' ho'
    obtain rfl := Option.some.inj (hop.symm.trans hop')
    exact hrunning hrunning'
  have hunsettled {o' : OperationId} (hawaits : e.awaits (.operation o') = true)
      (hsettles : m.settles o' = true) : o' ≠ o := by
    rintro rfl
    exact Bool.noConfusion (hsettles.symm.trans (hm hawaits))
  cases hc with
  | aloof hm h' | yielded hs hpast h' => rwa [h'.operations]
  | awaited hs hr h' | finished hs h' =>
      rw [h'.operations]
      exact (getElem?_setStatus_ne (hconducted hs rfl) { e with stack := _ } _).trans hop
  | refused hm' h' | requested hm' hr hkind h' | attaching hs hphase hphase' hepoch h' =>
      rw [h'.operations]
      exact getElem?_begun hop _
  | answered hawaits h' | failing hawaits hs h' | cancelled hawaits h' =>
      rw [h'.operations]
      exact (getElem?_setStatus_ne (hunsettled hawaits (by simp [Move.settles])) e _).trans hop

-- An operation that is over stays so.
theorem Engaged.over_replay (h : Engaged e) {operation : Operation}
    (hop : e.operations[o]? = some operation) (hrunning : operation.status ≠ .running)
    (hwaits : ∀ r, operation.status ≠ .waiting r) {moves : List Move} (hruns : e.Runs moves) :
    (e.replay moves).operations[o]? = some operation := by
  induction moves generalizing e with
  | nil => exact hop
  | cons m moves ih =>
      obtain ⟨hallows, -, hlater⟩ := hruns
      have hc := conducts_after hallows
      refine ih (h.conducts hc) (h.stays hc hop hrunning fun hawaits => ?_) hlater
      obtain ⟨t, kind, r, hwaiting⟩ := waiting_of_awaits hawaits
      obtain rfl := Option.some.inj (hop.symm.trans hwaiting)
      exact absurd rfl (hwaits r)

-- What is settled neither waits nor goes on, except to report a failure.
theorem Conducts.settled (h : Conducts e m e') (hsettles : m.settles o = true)
    {kind : OperationKind} {r : FetchRequest}
    (hop : e.operations[o]? = some ⟨t, kind, .waiting r⟩) :
    ∃ status, e'.operations[o]? = some ⟨t, kind, status⟩ ∧ (∀ r, status ≠ .waiting r) ∧
      (m = .cancel o → status = .cancelled) := by
  have hself {o' : OperationId} {status : Status} (ho : (o' == o) = true)
      (hoperations : e'.operations = (e.setStatus o' status).operations) :
      e'.operations[o]? = some ⟨t, kind, status⟩ := by
    obtain rfl := beq_iff_eq.mp ho
    exact hoperations ▸ getElem?_setStatus_self hop status
  cases h with
  | aloof hm h' =>
      have hawaits : e.awaits (.operation o) = true := by simp [awaits, hop]
      exact absurd hawaits (by simp [hm o hsettles])
  | answered hawaits h' =>
      exact ⟨_, hself hsettles h'.operations, fun r h => (by cases h), fun h => by cases h⟩
  | failing hawaits hs h' =>
      exact ⟨_, hself hsettles h'.operations, fun r h => (by cases h), fun h => by cases h⟩
  | cancelled hawaits h' =>
      exact ⟨_, hself hsettles h'.operations, fun r h => (by cases h), fun _ => rfl⟩
  | awaited | yielded | finished | attaching => cases hsettles
  | refused hm h' | requested hm hr hkind h' => cases m <;> cases hm <;> cases hsettles

-- Nobody answers an operation, and nobody drops it.
def Awaiting (o : OperationId) (_ : Engine) (m : Move) : Prop := m.settles o = false

instance (o : OperationId) (e : Engine) (m : Move) : Decidable (Awaiting o e m) :=
  inferInstanceAs (Decidable (_ = _))

theorem Engaged.waits_replay (h : Engaged e) {kind : OperationKind} {r : FetchRequest}
    (hop : e.operations[o]? = some ⟨t, kind, .waiting r⟩) {moves : List Move}
    (hfollows : e.Follows (Awaiting o) moves) :
    (e.replay moves).operations[o]? = some ⟨t, kind, .waiting r⟩ := by
  induction moves generalizing e with
  | nil => exact hop
  | cons m moves ih =>
      obtain ⟨hallows, hm, hlater⟩ := hfollows
      have hc := conducts_after hallows
      refine ih (h.conducts hc) (h.stays hc hop ?_ fun _ => hm) hlater
      intro hrunning
      cases hrunning

end FilteredFeed.Engine
