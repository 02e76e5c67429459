import FilteredFeed.Proofs.Engine.Reachable

namespace FilteredFeed.Engine

open FilteredFeed.Feed FilteredFeed.Filter FilteredFeed.Listener FilteredFeed.Timeline
open FilteredFeed.Scenario (Asker)

variable [Patterns]

-- What happens to a timeline after which results of earlier requests are of no use to it.
inductive Incident where
  | invalidated
  -- it is given another query, or none
  | requeried
  -- it is stopped: by a call, by an activation that failed, or because nobody holds it any more
  | deactivated
  | activated
  | disposed
  -- an activation finds the query changed and empties the buffer
  | cleared
deriving DecidableEq, Repr

-- Whether a notification makes a timeline invalidate itself.
def heeds (e : Engine) (t : TimelineId) (revision : Nat) : Bool :=
  decide ((e.timeline t).phase ≠ .disposed) &&
    match (e.timeline t).caughtUp with
    | some caughtUp => decide (caughtUp < revision) || e.isStale t
    | none => true

-- Whether a live item makes a timeline invalidate itself.
def isBehind (e : Engine) (t : TimelineId) : Bool := (e.timeline t).phase.isActive && e.isStale t

-- Whether an answer makes an activation fail.
def isRollback (e : Engine) (t : TimelineId) (kind : OperationKind) (request : FetchRequest) :
    Except StorageError (List Item) → Bool
  | .error _ => decide (kind = .activation ∧ request.generation = (e.timeline t).generation)
  | .ok _ => false

def when (b : Bool) (incident : Incident) : Option Incident := if b then some incident else none

-- What a call that goes on does to a timeline.
def frameIncident? (e : Engine) (t : TimelineId) : Frame → Option Incident
  | .call (.timeline t') revision => when (t' == t && e.heeds t revision) .invalidated
  | .release (.timeline t') => when (t' == t && e.isLastHold t) .deactivated
  | .finish o _ => when (e.owner o == some t && e.isLastHold t) .deactivated
  | .attach t' _ epoch .swap =>
      when (t' == t && (e.timeline t).epoch == epoch && e.isStale t) .invalidated
  | .attach t' _ epoch (.activation _ generation) =>
      when (t' == t && (e.timeline t).epoch == epoch &&
        (e.timeline t).generation == generation && e.isStale t) .cleared
  | _ => none

-- What the end of an operation does to a timeline.
def answerIncident? (e : Engine) (t : TimelineId) (o : OperationId)
    (result : Except StorageError (List Item)) : Option Incident :=
  match e.operations[o]? with
  | some ⟨t', kind, .waiting request⟩ =>
      when (t' == t && (e.isRollback t kind request result || e.isLastHold t)) .deactivated
  | _ => none

-- What a pump does to a timeline.
def pumpIncident? (e : Engine) (t : TimelineId) (k : TaskId) : Option Incident :=
  match e.tasks[k]? with
  | some ⟨.pump t' s, _, false, false⟩ =>
      match ((e.channel s).receive k).1 with
      | .item _ => when (t' == t && e.isAlive (.timeline t') && e.isBehind t) .invalidated
      | _ => none
  | _ => none

-- What a move does to a timeline.
def incident? (e : Engine) (t : TimelineId) : Move → Option Incident
  | .step => e.stack.head?.bind (e.frameIncident? t)
  | .drop t' => when (t' == t && e.isLastHold t) .deactivated
  | .deactivate t' => when (t' == t && (e.timeline t).phase.isActive) .deactivated
  | .invalidate t' => when (t' == t && decide ((e.timeline t).phase ≠ .disposed)) .invalidated
  | .dispose t' => when (t' == t && decide ((e.timeline t).phase ≠ .disposed)) .disposed
  | .setQuery t' query =>
      when (t' == t && decide ((e.timeline t).phase ≠ .disposed ∧ (e.timeline t).query ≠ query))
        .requeried
  | .offer t' _ => when (t' == t && e.isBehind t) .invalidated
  | .startActivation t' hasRuntime =>
      when (t' == t && decide ((e.timeline t).phase = .inactive) && hasRuntime) .activated
  | .answer (.operation o) result => e.answerIncident? t o result
  | .cancel o => when (e.owner o == some t && e.isLastHold t) .deactivated
  | .turn k => e.pumpIncident? t k
  | _ => none

-- What happens to a timeline in a run.
def incidents (t : TimelineId) : Engine → List Move → List Incident
  | _, [] => []
  | e, m :: moves => (e.incident? t m).toList ++ incidents t (e.after m) moves

-- By how much an incident raises the generation.
def Incident.raise : Option Incident → Nat
  | none | some .cleared => 0
  | _ => 1

variable {arrives : TimelineId → Item → Prop} {e e' e'' : Engine} {t : TimelineId}

-- From one engine to another the generation of a timeline rises by what the incident says.
def Raises (t : TimelineId) (incident : Option Incident) (e e' : Engine) : Prop :=
  (e'.timeline t).generation = (e.timeline t).generation + Incident.raise incident

theorem Calm.raises (h : Calm arrives e e') (t : TimelineId) : Raises t none e e' :=
  (h.timeline t).generation

theorem Background.raises (h : Background e e') (t : TimelineId) : Raises t none e e' :=
  congrArg Timeline.generation (h.timeline t)

theorem Raises.calm {incident : Option Incident} (h : Raises t incident e e')
    (h' : Calm Nothing e' e'') : Raises t incident e e'' :=
  (h'.timeline t).generation.trans h

theorem Calm.trans_raises {incident : Option Incident} (h : Calm arrives e e')
    (h' : Raises t incident e' e'') : Raises t incident e e'' := by
  unfold Raises at h' ⊢
  rw [h', (h.timeline t).generation]

theorem Apart.raises {t' : TimelineId} (h : Apart t' e e') (hne : t' ≠ t) : Raises t none e e' :=
  congrArg Timeline.generation (h.others t (Ne.symm hne))

theorem raises_invalidateQuietly (ht : t < e.timelines.length) :
    Raises t (some .invalidated) e (e.invalidateQuietly t).2 := by
  unfold Raises
  rw [timeline_invalidateQuietly ht]
  rfl

theorem raises_invalidateNow (ht : t < e.timelines.length) :
    Raises t (some .invalidated) e (e.invalidateNow t) :=
  (raises_invalidateQuietly ht).calm (calm_emit ..)

-- A notification that a timeline does not heed leaves it under its generation.
theorem onInvalidated_cases (e : Engine) (t : TimelineId) (revision : Nat) :
    e.heeds t revision = true ∧ e.onInvalidated t revision = e.invalidateNow t ∨
      e.heeds t revision = false ∧ Calm Nothing e (e.onInvalidated t revision) := by
  unfold heeds onInvalidated
  dsimp only
  by_cases hd : (e.timeline t).phase = .disposed
  · rw [if_pos hd]
    exact .inr ⟨by simp [hd], .refl _ _⟩
  · rw [if_neg hd]
    cases (e.timeline t).caughtUp with
    | none => exact .inl ⟨by simp [hd], rfl⟩
    | some caughtUp =>
        dsimp only
        by_cases hle : revision ≤ caughtUp ∧ (!e.isStale t) = true
        · rw [if_pos hle]
          refine .inr ⟨?_, ?_⟩
          · have hs : e.isStale t = false := by simpa using hle.2
            simp [hs, hle.1]
          · split
            · exact calm_modifyTimeline e ⟨rfl, rfl, fun _ h => .inl h⟩
            · exact .refl _ _
        · rw [if_neg hle]
          refine .inl ⟨?_, rfl⟩
          cases hs : e.isStale t with
          | true => simp [hd]
          | false =>
              have hlt : caughtUp < revision := by
                simp only [hs, Bool.not_false, and_true] at hle
                omega
              simp [hd, hlt]

theorem raises_onInvalidated (ht : t < e.timelines.length) (t' : TimelineId) (revision : Nat) :
    Raises t (when (t' == t && e.heeds t revision) .invalidated) e
      (e.onInvalidated t' revision) := by
  by_cases h : t' = t
  · subst h
    rcases onInvalidated_cases e t' revision with ⟨hh, heq⟩ | ⟨hh, hc⟩
    · rw [heq, hh, beq_self_eq_true]
      exact raises_invalidateNow ht
    · rw [hh, Bool.and_false]
      exact hc.raises t'
  · rw [beq_false_of_ne h, Bool.false_and]
    exact (within_onInvalidated e t' revision).raises h

theorem raises_teardown (ht : t < e.timelines.length) :
    Raises t (some .deactivated) e (e.teardown t).2 := by
  unfold Raises
  rw [timeline_teardown ht]
  rfl

theorem raises_release (ht : t < e.timelines.length) (t' : TimelineId) :
    Raises t (when (t' == t && e.isLastHold t) .deactivated) e (e.release (.timeline t')) := by
  by_cases h : t' = t
  · subst h
    have hc := calm_dropHold Nothing e t'
    rw [beq_self_eq_true, Bool.true_and, release_eq]
    cases e.isLastHold t' with
    | true =>
        have htorn := raises_teardown (hc.size ▸ ht)
        exact hc.trans_raises (htorn.calm (calm_push _ (filter_deactivations _)))
    | false => exact hc.raises t'
  · rw [beq_false_of_ne h, Bool.false_and]
    exact congrArg Timeline.generation (timeline_release_ne (Ne.symm h))

theorem raises_close (ht : t < e.timelines.length) (o : OperationId) {status : Status}
    (hstatus : ∀ request, status ≠ .waiting request) :
    Raises t (when (e.owner o == some t && e.isLastHold t) .deactivated) e
      (e.close o status) := by
  unfold close owner
  cases e.operations[o]? with
  | none => exact (Calm.refl Nothing e).raises t
  | some operation =>
      have hc : Calm Nothing e (e.setStatus o status) := calm_setStatus e o hstatus
      have ht' : t < (e.setStatus o status).timelines.length := ht
      exact hc.trans_raises (raises_release ht' operation.timeline)

theorem raises_catchUp (ht : t < e.timelines.length) (t' : TimelineId) :
    Raises t (when (t' == t && e.isStale t) .invalidated) e (e.catchUp t') := by
  by_cases h : t' = t
  · subst h
    unfold catchUp
    rw [beq_self_eq_true, Bool.true_and]
    cases e.isStale t' with
    | false => exact (Calm.refl Nothing e).raises t'
    | true =>
        refine (raises_invalidateQuietly ht).calm (Calm.trans ?_ (calm_emit ..))
        exact calm_modifyTimeline _ ⟨rfl, rfl, fun _ h => .inl h⟩
  · rw [beq_false_of_ne h, Bool.false_and]
    exact (within_catchUp e t').raises h

theorem raises_offer (ht : t < e.timelines.length) (t' : TimelineId) (item : Item) :
    Raises t (when (t' == t && e.isBehind t) .invalidated) e (e.offer t' item).2 := by
  by_cases h : t' = t
  · subst h
    have hcatch := raises_catchUp ht t'
    rw [offer_eq]
    rw [beq_self_eq_true, Bool.true_and] at hcatch ⊢
    unfold isBehind
    cases (e.timeline t').phase.isActive with
    | false => exact (Calm.refl Nothing e).raises t'
    | true =>
        simp only [Bool.not_true, Bool.false_eq_true, if_false, Bool.true_and]
        split
        · rename_i haccepts
          exact hcatch.calm (calm_modifyTimeline _ (keeps_receive _ _ haccepts))
        · exact hcatch
  · rw [beq_false_of_ne h, Bool.false_and]
    exact (within_offer e t' item).raises h

theorem raises_attach_swap (ht : t < e.timelines.length) (t' : TimelineId) (q : QueryId)
    (epoch : Nat) :
    Raises t (when (t' == t && (e.timeline t).epoch == epoch && e.isStale t) .invalidated) e
      (e.attach t' q epoch .swap) := by
  by_cases h : t' = t
  · subst h
    rw [beq_self_eq_true, Bool.true_and, attach_eq]
    by_cases hepoch : (e.timeline t').epoch = epoch
    · rw [if_neg (not_not_intro hepoch), hepoch, beq_self_eq_true, Bool.true_and]
      have hc := calm_enrol Nothing e t' q
      unfold refresh
      rw [isStale_enrol]
      cases e.isStale t' with
      | true => exact hc.trans_raises (raises_invalidateNow (hc.size ▸ ht))
      | false => exact hc.raises t'
    · rw [if_pos hepoch, beq_false_of_ne hepoch]
      exact (calm_push e rfl : Calm Nothing _ _).raises t'
  · rw [beq_false_of_ne h, Bool.false_and, Bool.false_and, attach_eq]
    split
    · exact (calm_push e rfl : Calm Nothing _ _).raises t
    · exact ((apart_enrol e t' q).trans (within_refresh _ t').toApart).raises h

theorem raises_prepare (e : Engine) (t t' : TimelineId) (o : OperationId) (generation : Nat) :
    Raises t none e (e.prepare t' o generation) := by
  rw [prepare_eq]
  split
  · exact rfl
  · exact generation_prepared e t' t

theorem raises_attach_activation (e : Engine) (t t' : TimelineId) (q : QueryId)
    (epoch : Nat) (o : OperationId) (generation : Nat) :
    Raises t none e (e.attach t' q epoch (.activation o generation)) := by
  rw [attach_eq]
  split
  · exact (calm_push e rfl : Calm Nothing _ _).raises t
  · exact (calm_enrol Nothing e t' q).trans_raises (raises_prepare ..)

omit [Patterns] in
theorem raise_cleared (b : Bool) : Incident.raise (when b .cleared) = 0 := by
  cases b <;> rfl

theorem raises_perform (ht : t < e.timelines.length) (frame : Frame) :
    Raises t (e.frameIncident? t frame) e (e.perform frame) := by
  cases frame with
  | activate q => exact (calm_addActivation e q : Calm Nothing _ _).raises t
  | deactivate q => exact (calm_removeActivation e q : Calm Nothing _ _).raises t
  | announce q revision => exact (calm_announce e q revision : Calm Nothing _ _).raises t
  | rounds q => exact (calm_continueRounds e q : Calm Nothing _ _).raises t
  | call target revision =>
      cases target with
      | timeline t' => exact raises_onInvalidated ht t' revision
      | observer o => exact (calm_push e rfl : Calm Nothing _ _).raises t
  | observer o revision => exact (Calm.refl Nothing e).raises t
  | release target =>
      cases target with
      | timeline t' => exact raises_release ht t'
      | observer o => exact rfl
  | attach t' q epoch purpose =>
      cases purpose with
      | swap => exact raises_attach_swap ht t' q epoch
      | activation o generation =>
          unfold Raises frameIncident?
          rw [raise_cleared]
          exact raises_attach_activation e t t' q epoch o generation
  | emit t' delta => exact (calm_emit e t' delta : Calm Nothing _ _).raises t
  | finish o result => exact raises_close ht o fun _ => nofun

-- Calls of the owner of a timeline.

-- A call that holds its timeline finds it as it is.
theorem timeline_hold (e : Engine) (t t' : TimelineId) :
    ∃ holders, (e.hold t).timeline t' = { e.timeline t' with holders } :=
  timeline_retain e t t'

theorem size_hold (e : Engine) (t : TimelineId) :
    (e.hold t).timelines.length = e.timelines.length :=
  (calm_hold e t : Calm Nothing _ _).size

theorem raises_deactivate (ht : t < e.timelines.length) (t' : TimelineId) :
    Raises t (when (t' == t && (e.timeline t).phase.isActive) .deactivated) e
      (e.deactivate t') := by
  unfold deactivate
  by_cases h : t' = t
  · subst h
    rw [beq_self_eq_true, Bool.true_and]
    cases (e.timeline t').phase.isActive with
    | true => exact (raises_teardown ht).calm (calm_push _ (filter_deactivations _))
    | false => exact (Calm.refl Nothing e).raises t'
  · rw [beq_false_of_ne h, Bool.false_and]
    split
    · exact (apart_teardown e t').raises h
    · exact rfl

theorem raises_invalidate (ht : t < e.timelines.length) (t' : TimelineId) :
    Raises t (when (t' == t && decide ((e.timeline t).phase ≠ .disposed)) .invalidated) e
      (e.invalidate t') := by
  unfold invalidate
  by_cases h : t' = t
  · subst h
    rw [beq_self_eq_true, Bool.true_and]
    by_cases hd : (e.timeline t').phase = .disposed
    · rw [if_pos hd, decide_eq_false (not_not_intro hd)]
      exact rfl
    · rw [if_neg hd, decide_eq_true hd]
      exact raises_invalidateNow ht
  · rw [beq_false_of_ne h, Bool.false_and]
    split
    · exact rfl
    · exact (within_invalidateNow e t').raises h

theorem raises_dispose (ht : t < e.timelines.length) (t' : TimelineId) :
    Raises t (when (t' == t && decide ((e.timeline t).phase ≠ .disposed)) .disposed) e
      (e.dispose t') := by
  rw [dispose_eq]
  by_cases h : t' = t
  · subst h
    rw [beq_self_eq_true, Bool.true_and]
    by_cases hd : (e.timeline t').phase = .disposed
    · rw [if_pos hd, decide_eq_false (not_not_intro hd)]
      exact rfl
    · rw [if_neg hd, decide_eq_true hd]
      unfold Raises
      refine (congrArg Timeline.generation
        (timeline_modifyTimeline_self ((apart_endWork e t').size ▸ ht) ended)).trans ?_
      rw [timeline_endWork]
      rfl
  · rw [beq_false_of_ne h, Bool.false_and]
    split
    · exact rfl
    · exact ((apart_endWork e t').trans (within_modifyTimeline ..).toApart).raises h

theorem raises_setQuery (ht : t < e.timelines.length) (t' : TimelineId)
    (query : Option QueryId) :
    Raises t (when (t' == t && decide ((e.timeline t).phase ≠ .disposed ∧
      (e.timeline t).query ≠ query)) .requeried) e (e.setQuery t' query).2 := by
  rw [setQuery_eq]
  by_cases h : t' = t
  · subst h
    rw [beq_self_eq_true, Bool.true_and]
    by_cases hd : (e.timeline t').phase = .disposed ∨ (e.timeline t').query = query
    · rw [if_pos hd, decide_eq_false fun hboth => hd.elim hboth.1 hboth.2]
      exact rfl
    · rw [if_neg hd, decide_eq_true (by simpa using hd)]
      have hc := calm_leaveQuery Nothing e t' query
      exact hc.trans_raises (raises_invalidateNow (hc.size ▸ ht))
  · rw [beq_false_of_ne h, Bool.false_and]
    split
    · exact rfl
    · have ha : Apart t' e (e.leaveQuery t' query) :=
        (apart_unsubscribe e t').trans (within_modifyTimeline ..).toApart
      exact (ha.trans (within_invalidateNow _ t').toApart).raises h

-- Operations.

-- Who holds a timeline for an operation is not the last one, if somebody held it before.
theorem isLastHold_retain (h : e.isAlive (.timeline t) = true) :
    (e.retain (.timeline t)).isLastHold t = false := by
  unfold isLastHold retain modifyTimeline
  simp only [isAlive] at h
  cases hT : e.timelines[t]? with
  | none => simp [hT] at h
  | some timeline =>
      have hpos : 0 < timeline.holders := by simpa [hT] using h
      simp [hT, Nat.ne_of_gt hpos]

-- The end of an operation, as far as its timeline is concerned.
theorem raises_end (ht : t < e.timelines.length) {o : OperationId} {t' : TimelineId}
    (ho : e.owner o = some t') {status : Status} (hstatus : ∀ request, status ≠ .waiting request) :
    Raises t (when (t' == t && e.isLastHold t) .deactivated) e (e.close o status) := by
  have h := raises_close ht o hstatus
  rw [ho] at h
  exact h

theorem raises_refused (ht : t < e.timelines.length) {t' : TimelineId} (kind : OperationKind)
    (halive : e.isAlive (.timeline t') = true) {status : Status}
    (hstatus : ∀ request, status ≠ .waiting request) :
    Raises t none e ((e.addOperation t' kind).2.close e.operations.length status) := by
  have hc := calm_addOperation Nothing e t' kind
  refine hc.trans_raises ?_
  have ht' : t < (e.addOperation t' kind).2.timelines.length := hc.size ▸ ht
  have h := raises_end ht' (owner_addOperation e t' kind) hstatus
  by_cases heq : t' = t
  · subst heq
    rw [show (e.addOperation t' kind).2.isLastHold t' = false from isLastHold_retain halive,
      Bool.and_false] at h
    exact h
  · rw [beq_false_of_ne heq, Bool.false_and] at h
    exact h

theorem raises_launched (ht : t < e.timelines.length) (t' : TimelineId) (o : OperationId) :
    Raises t (when (t' == t) .activated) e (e.launched t' o) := by
  have hl : Raises t (when (t' == t) .activated) e (e.launch t') := by
    by_cases h : t' = t
    · subst h
      unfold Raises
      rw [timeline_launch ht, beq_self_eq_true]
      rfl
    · rw [beq_false_of_ne h]
      exact congrArg Timeline.generation (timeline_modifyTimeline_ne (Ne.symm h) _)
  unfold launched
  split
  · exact hl
  · unfold Raises at hl ⊢
    rw [← hl]
    exact raises_prepare ..

theorem raises_startActivation (ht : t < e.timelines.length) {t' : TimelineId}
    (hasRuntime : Bool) (halive : e.isAlive (.timeline t') = true) :
    Raises t (when (t' == t && decide ((e.timeline t).phase = .inactive) && hasRuntime)
      .activated) e (e.startActivation t' hasRuntime).2 := by
  rcases startActivation_cases e t' hasRuntime with ⟨hphase, rfl, heq⟩ | ⟨hrefused, result, heq⟩
  · rw [heq, Bool.and_true]
    have hc := calm_addOperation Nothing e t' .activation
    have hl := hc.trans_raises (raises_launched (hc.size ▸ ht) t' e.operations.length)
    by_cases h : t' = t
    · subst h
      rw [decide_eq_true hphase, Bool.and_true]
      exact hl
    · rw [beq_false_of_ne h] at hl ⊢
      exact hl
  · rw [heq]
    have hnone : (t' == t && decide ((e.timeline t).phase = .inactive) && hasRuntime) = false := by
      by_cases h : t' = t
      · subst h
        rcases hrefused with hphase | rfl
        · simp [hphase]
        · simp
      · simp [h]
    rw [hnone]
    exact raises_refused ht .activation halive fun _ => nofun

theorem raises_startPage (ht : t < e.timelines.length) {t' : TimelineId}
    (before : Option ItemId) (limit : Nat) (halive : e.isAlive (.timeline t') = true) :
    Raises t none e (e.startPage t' before limit).2 := by
  unfold startPage
  dsimp only
  split
  · exact raises_refused ht .page halive fun _ => nofun
  · exact (calm_addOperation Nothing e t' .page).raises t

theorem isLastHold_modifyTimeline (e : Engine) (t t' : TimelineId) {f : Timeline → Timeline}
    (hf : ∀ timeline, (f timeline).holders = timeline.holders) :
    (e.modifyTimeline t' f).isLastHold t = e.isLastHold t := by
  simp only [isLastHold, modifyTimeline, List.getElem?_modify]
  by_cases h : t' = t
  · cases e.timelines[t]? with
    | none => simp
    | some timeline => simp [h, hf]
  · simp [h]

theorem holders_absorb (timeline : Timeline) (items : List Item) :
    (timeline.absorb items).1.holders = timeline.holders := by
  obtain ⟨events, h⟩ := absorb_eq timeline items
  rw [h]

-- Merging the items of an answer and ending the operation is the end of the operation, as far as
-- generations are concerned.
theorem raises_merge (ht : t < e.timelines.length) {o : OperationId} {t' : TimelineId}
    (ho : e.owner o = some t') {items : List Item} {f : Timeline → Timeline}
    (hf : ∀ timeline, ∃ phase, f timeline = ({ timeline with phase }.absorb items).1)
    {status : Status} (hstatus : ∀ request, status ≠ .waiting request) :
    Raises t (when (t' == t && e.isLastHold t) .deactivated) e
      ((e.modifyTimeline t' f).close o status) := by
  have hc : Calm (fun _ item => item ∈ items) e (e.modifyTimeline t' f) := by
    apply calm_modifyTimeline
    obtain ⟨phase, heq⟩ := hf (e.timeline t')
    rw [heq]
    have hk := keeps_absorb { e.timeline t' with phase } fun item (h : item ∈ items) => h
    exact ⟨hk.generation, hk.compiled, hk.buffer⟩
  have hholders (timeline : Timeline) : (f timeline).holders = timeline.holders := by
    obtain ⟨phase, heq⟩ := hf timeline
    rw [heq, holders_absorb]
  have ht' : t < (e.modifyTimeline t' f).timelines.length := hc.size ▸ ht
  have h := raises_end ht' (hc.owner o t' ho) hstatus
  rw [isLastHold_modifyTimeline e t t' hholders] at h
  exact hc.trans_raises h

theorem raises_complete (ht : t < e.timelines.length) (o : OperationId)
    (result : Except StorageError (List Item)) :
    Raises t (e.answerIncident? t o result) e (e.complete o result) := by
  unfold answerIncident?
  cases completes e o result with
  | unasked hnone heq =>
      rw [heq]
      split
      · exact absurd ‹_› (hnone _ _ _)
      · exact rfl
  | @ended t' kind r result hop hwhy heq =>
      have howner : e.owner o = some t' := by simp [owner, hop]
      have hkept : (t' == t && (e.isRollback t kind r result || e.isLastHold t)) =
          (t' == t && e.isLastHold t) := by
        by_cases hself : t' = t
        · subst hself
          rcases hwhy with hpast | ⟨rfl, -⟩ <;> cases result <;> simp [isRollback, *]
        · rw [beq_false_of_ne hself, Bool.false_and, Bool.false_and]
      simp only [hop, heq, hkept]
      exact raises_end ht howner (done_ne_waiting _)
  | @merged t' kind r items phase outcome hop hg hphase heq =>
      have howner : e.owner o = some t' := by simp [owner, hop]
      simp only [hop, heq]
      exact raises_merge ht howner (fun _ => ⟨phase, rfl⟩) (done_ne_waiting _)
  | @rolledBack t' r cause hop hg heq =>
      have hrunning : Calm Nothing e (e.setStatus o .running) := calm_setStatus e o running_ne_waiting
      have hpush : (deactivations (e.timeline t').activated ++
          [Frame.finish o (.error (.fetch cause))]).filter Frame.isActivation = [] := by
        rw [List.filter_append, filter_deactivations]
        rfl
      simp only [hop, heq]
      refine hrunning.trans_raises (Raises.calm ?_ (calm_push _ hpush))
      by_cases hself : t' = t
      · subst hself
        simp only [isRollback, hg, and_self, decide_true, Bool.true_or, beq_self_eq_true,
          Bool.and_true]
        exact raises_teardown (e := e.setStatus o .running) ht
      · rw [beq_false_of_ne hself, Bool.false_and]
        exact (apart_teardown ..).raises hself

theorem raises_cancel (ht : t < e.timelines.length) {o : OperationId}
    (hawaits : e.awaits (.operation o) = true) :
    Raises t (when (e.owner o == some t && e.isLastHold t) .deactivated) e (e.cancel o) := by
  have heq : e.cancel o = e.close o .cancelled := by
    have hwaiting : ∃ t' kind request, e.operations[o]? = some ⟨t', kind, .waiting request⟩ := by
      unfold awaits at hawaits
      dsimp only at hawaits
      split at hawaits
      · rename_i t' kind request hop
        exact ⟨t', kind, request, hop⟩
      · cases hawaits
    obtain ⟨t', kind, request, hop⟩ := hwaiting
    simp only [cancel, hop]
  rw [heq]
  exact raises_close ht o fun _ => nofun

-- Tasks.

theorem raises_startRefetch (e : Engine) (t t' : TimelineId) :
    Raises t none e (e.startRefetch t') := by
  have hw := within_startRefetch e t'
  by_cases h : t' = t
  · subst h
    by_cases ht : t' < e.timelines.length
    · unfold Raises
      rw [timeline_startRefetch ht]
      rfl
    · have hle := Nat.le_of_not_lt ht
      unfold Raises
      rw [timeline_of_le hle, timeline_of_le (hw.size ▸ hle)]
      rfl
  · exact hw.raises h

theorem raises_runPump (ht : t < e.timelines.length) (k : TaskId) (t' : TimelineId)
    (s : StreamId) :
    Raises t
      (match ((e.channel s).receive k).1 with
        | .item _ => when (t' == t && e.isAlive (.timeline t') && e.isBehind t) .invalidated
        | _ => none)
      e (runPump k t' s 1 e) := by
  have hb := background_modifyChannel e s fun _ => ((e.channel s).receive k).2
  have hbehind : (e.modifyChannel s fun _ => ((e.channel s).receive k).2).isBehind t =
      e.isBehind t := rfl
  have halive : (e.modifyChannel s fun _ => ((e.channel s).receive k).2).isAlive (.timeline t') =
      e.isAlive (.timeline t') := rfl
  simp only [runPump]
  generalize e.modifyChannel s (fun _ => ((e.channel s).receive k).2) = e' at *
  have hfinish : Raises t none e (e'.finishTask k) :=
    (hb.trans (background_finishTask e' k)).raises t
  cases ((e.channel s).receive k).1 with
  | nothing => exact hb.raises t
  | closed => exact hfinish
  | item item =>
      dsimp only
      rw [halive]
      cases e.isAlive (.timeline t') with
      | true =>
          have h := raises_offer (hb.timelines ▸ ht) t' item (e := e')
          rw [hbehind] at h
          rw [Bool.and_true]
          exact (hb.calm : Calm Nothing _ _).trans_raises h
      | false =>
          rw [Bool.and_false, Bool.false_and]
          exact hfinish
  | lagged missed =>
      dsimp only
      split
      · unfold recoverLag
        split
        · exact (hb.calm : Calm Nothing _ _).trans_raises (raises_startRefetch ..)
        · exact hb.raises t
      · exact hfinish

theorem pumpIncident?_pump {k : TaskId} {t' : TimelineId} {s : StreamId} {started : Bool}
    (h : e.tasks[k]? = some ⟨.pump t' s, started, false, false⟩) :
    e.pumpIncident? t k =
      match ((e.channel s).receive k).1 with
      | .item _ => when (t' == t && e.isAlive (.timeline t') && e.isBehind t) .invalidated
      | _ => none := by
  simp only [pumpIncident?, h]

theorem pumpIncident?_other {k : TaskId}
    (h : ∀ t s started, e.tasks[k]? ≠ some ⟨.pump t s, started, false, false⟩) :
    e.pumpIncident? t k = none := by
  unfold pumpIncident?
  split
  · rename_i t' s started htask
    exact absurd htask (h t' s started)
  · rfl

theorem raises_turn (ht : t < e.timelines.length) (k : TaskId) :
    Raises t (e.pumpIncident? t k) e (e.turn k) := by
  rcases turn_cases e k with ⟨t', s, started, htask, heq⟩ | ⟨hpump, heq⟩
  · rw [heq, pumpIncident?_pump htask]
    exact raises_runPump ht k t' s
  · rw [heq, pumpIncident?_other hpump]
    exact (background_poll_refetch e k hpump).raises t

-- What happens to a timeline is what raises its generation, but for an activation that empties the
-- buffer. Nothing else does.
theorem raises_after (ht : t < e.timelines.length) {m : Move} (hallows : e.allows m = true) :
    Raises t (e.incident? t m) e (e.after m) := by
  cases m with
  | step =>
      obtain ⟨frame, rest, hs, -, hafter⟩ := after_step hallows
      rw [hafter, incident?, hs]
      exact raises_perform (e := { e with stack := rest }) ht frame
  | leaveObserver =>
      change Raises t none e e.leaveObserver
      unfold leaveObserver
      split <;> exact rfl
  | addTimeline config storage stream query hasSink =>
      change Raises t none e (e.addTimeline config storage stream query hasSink).2
      unfold Raises addTimeline
      dsimp only
      rw [(within_recompile _ _).others t (Nat.ne_of_lt ht), timeline_append,
        if_neg (Nat.ne_of_lt ht)]
      rfl
  | startActivation t' hasRuntime =>
      exact raises_startActivation ht hasRuntime (Bool.and_eq_true_iff.mp hallows).2
  | startPage t' before limit =>
      exact raises_startPage ht before limit (Bool.and_eq_true_iff.mp hallows).2
  | drop t' => exact raises_release ht t'
  | deactivate t' =>
      have h := (calm_hold e t' : Calm Nothing _ _).trans_raises
        (raises_deactivate (size_hold e t' ▸ ht) t')
      obtain ⟨holders, hT⟩ := timeline_hold e t' t
      rwa [hT] at h
  | invalidate t' =>
      have h := (calm_hold e t' : Calm Nothing _ _).trans_raises
        (raises_invalidate (size_hold e t' ▸ ht) t')
      obtain ⟨holders, hT⟩ := timeline_hold e t' t
      rwa [hT] at h
  | dispose t' =>
      have h := (calm_hold e t' : Calm Nothing _ _).trans_raises
        (raises_dispose (size_hold e t' ▸ ht) t')
      obtain ⟨holders, hT⟩ := timeline_hold e t' t
      rwa [hT] at h
  | setQuery t' query =>
      have h := (calm_hold e t' : Calm Nothing _ _).trans_raises
        (raises_setQuery (size_hold e t' ▸ ht) t' query)
      obtain ⟨holders, hT⟩ := timeline_hold e t' t
      rwa [hT] at h
  | offer t' item => exact raises_offer ht t' item
  | answer asker result =>
      cases asker with
      | operation o => exact raises_complete ht o result
      | task k =>
          have hc : Calm (fun _ _ => True) e (e.completeTask k result) :=
            calm_completeTask e k result fun _ _ _ _ _ _ _ _ => trivial
          exact hc.raises t
  | cancel o => exact raises_cancel ht (Bool.and_eq_true_iff.mp hallows).2
  | turn k => exact raises_turn ht k
  | releaseObserver o => exact rfl
  | addQuery expr source => exact (calm_addQuery Nothing e expr source).raises t
  | addChannel capacity => exact rfl
  | setExpression q expr => exact (calm_setExpression Nothing e q expr).raises t
  | setSource q text => exact (calm_setSource Nothing e q text).raises t
  | activateQuery q => exact rfl
  | deactivateQuery q => exact rfl
  | compile q => exact (calm_compile e q : Calm Nothing _ _).raises t
  | listen q => exact (calm_listen Nothing e q).raises t
  | unsubscribe q id => exact (calm_dropSubscription e (some (q, id)) : Calm Nothing _ _).raises t
  | retain t' => exact (calm_retain e (.timeline t') : Calm Nothing _ _).raises t
  | accepts t' item => exact (calm_currentFilter Nothing e t').raises t
  | takeUnread t' =>
      have hc : Calm Nothing e (e.takeUnread t').2 :=
        calm_modifyTimeline e ⟨rfl, rfl, fun _ h => .inl h⟩
      exact hc.raises t
  | publish s item => exact (background_publish e s item).raises t
  | closeStream s => exact (background_closeStream e s).raises t
  | wake k => exact (background_wake e k).raises t
  | nextTask => exact (background_nextTask e).raises t

end FilteredFeed.Engine
