import FilteredFeed.Proofs.Engine.Answers
import FilteredFeed.Proofs.Engine.Assigned
import FilteredFeed.Proofs.Engine.Called
import Mathlib.Control.Monad.Basic

namespace FilteredFeed.Engine

open FilteredFeed.Feed FilteredFeed.Filter FilteredFeed.Listener FilteredFeed.Timeline
open FilteredFeed.Scenario (Asker)

variable [Patterns]
variable {e e' e'' : Engine} {t t' : TimelineId} {k : TaskId} {m : Move} {r : FetchRequest}
variable {T : Timeline} {items : List Item} {storage : Storage} {log : List FetchRequest}
variable {moves : List Move}

-- Whether a task is still to fill the buffer of a timeline.
def isFilling (e : Engine) (t : TimelineId) : Bool :=
  e.tasks.any fun task =>
    task.isLive && match task.job with
      | .refetch t' _ => t' == t
      | .pump _ _ => false

theorem isFilling_iff : e.isFilling t = true ↔ ∃ k r, e.work k = some (.refetch t r) := by
  unfold isFilling
  rw [List.any_eq_true]
  constructor
  · rintro ⟨⟨job, started, aborted, finished⟩, hmem, hfills⟩
    obtain ⟨hlive, hjob⟩ := Bool.and_eq_true_iff.mp hfills
    obtain ⟨k, htask⟩ := List.mem_iff_getElem?.mp hmem
    cases job with
    | pump => cases hjob
    | refetch t' r =>
        obtain rfl : t' = t := by simpa using hjob
        exact ⟨k, r, work_eq_some.mpr ⟨_, htask, hlive, rfl⟩⟩
  · rintro ⟨k, r, hk⟩
    obtain ⟨task, htask, hlive, hjob⟩ := work_eq_some.mp hk
    exact ⟨task, List.mem_of_getElem? htask, by simp [hlive, hjob]⟩

-- What a timeline asks for in a move, by a task that makes its request.
def fetch? (e : Engine) (t : TimelineId) : Move → Option FetchRequest
  | .turn k =>
      match e.asks (.task k) with
      | some (t', _) =>
          if t' = t ∧ e.hasBegun k = false then (e.poll k).1.map Prod.snd else none
      | none => none
  | _ => none

-- What a timeline asks for in a run.
def fetches (t : TimelineId) : Engine → List Move → List FetchRequest
  | _, [] => []
  | e, m :: moves => (e.fetch? t m).toList ++ fetches t (e.after m) moves

-- What a pump takes from its stream when it goes on, and for which timeline.
def receives (e : Engine) (k : TaskId) : Option (TimelineId × Received) :=
  match e.work k with
  | some (.pump t s) => some (t, ((e.channel s).receive k).1)
  | _ => none

-- Background work goes on. A storage answers whatever a timeline asks for, and there is no live item
-- for the timeline.
def Works (storage : Storage) (t : TimelineId) (e : Engine) : Move → Prop
  | .nextTask => True
  | .turn k => ∀ x ∈ e.receives k, x.1 = t → x.2 = .nothing ∨ x.2 = .closed
  | .answer (.task k) result =>
      ∀ x ∈ e.asks (.task k), x.1 = t →
        result = (storage.query x.2.text x.2.before (some x.2.limit)).1
  | _ => False

instance : Decidable (Works storage t e m) :=
  match m with
  | .nextTask => .isTrue trivial
  | .turn k =>
      inferInstanceAs (Decidable (∀ x ∈ e.receives k, x.1 = t → x.2 = .nothing ∨ x.2 = .closed))
  | .answer (.task k) result =>
      inferInstanceAs (Decidable (∀ x ∈ e.asks (.task k), x.1 = t →
        result = (storage.query x.2.text x.2.before (some x.2.limit)).1))
  | .answer (.operation _) _ | .step | .leaveObserver | .addQuery _ _ | .addChannel _
  | .addTimeline _ _ _ _ _ | .setExpression _ _ | .setSource _ _ | .activateQuery _
  | .deactivateQuery _ | .compile _ | .listen _ | .unsubscribe _ _ | .releaseObserver _ | .retain _
  | .drop _ | .deactivate _ | .invalidate _ | .dispose _ | .setQuery _ _ | .accepts _ _
  | .takeUnread _ | .offer _ _ | .publish _ _ | .closeStream _ | .startActivation _ _
  | .startPage _ _ _ | .cancel _ | .wake _ => .isFalse id

-- What is going on for a timeline stays as it is.
structure Aside (t : TimelineId) (e e' : Engine) : Prop where
  timeline : e'.timeline t = e.timeline t
  work : ∀ k r, e'.work k = some (.refetch t r) ↔ e.work k = some (.refetch t r)
  begun : ∀ k r, e.work k = some (.refetch t r) → e'.hasBegun k = e.hasBegun k

theorem Aside.refl (t : TimelineId) (e : Engine) : Aside t e e :=
  ⟨rfl, fun _ _ => Iff.rfl, fun _ _ _ => rfl⟩

theorem Aside.trans (h : Aside t e e') (h' : Aside t e' e'') : Aside t e e'' where
  timeline := h'.timeline.trans h.timeline
  work k r := (h'.work k r).trans (h.work k r)
  begun k r hk := (h'.begun k r ((h.work k r).mpr hk)).trans (h.begun k r hk)

theorem Aside.isFilling (h : Aside t e e') : e'.isFilling t = e.isFilling t := by
  rw [Bool.eq_iff_iff, isFilling_iff, isFilling_iff]
  simp only [h.work]

theorem aside_of_same (htasks : e'.tasks = e.tasks) (htimelines : e'.timelines = e.timelines) :
    Aside t e e' :=
  ⟨timeline_congr htimelines t, fun k r => by rw [work_congr htasks],
    fun k r _ => hasBegun_congr htasks k⟩

-- What another timeline does.
theorem aside_of_idle (hne : t ≠ t') (hw : Within t' e e') (hi : Idle (some t') e e')
    (ha : Assigns e e') : Aside t e e' :=
  ⟨hw.others t hne, fun k r => hi.work k (.refetch t r) fun heq => hne (Option.some.inj heq).symm,
    fun k _ _ => ha.begun k⟩

-- A task that ends is not one that fills the buffer.
theorem aside_finishTask (h : ∀ r, e.work k ≠ some (.refetch t r)) : Aside t e (e.finishTask k) := by
  refine ⟨(background_finishTask e k).timeline t, fun k' r => ?_, fun k' r _ => hasBegun_finishTask ..⟩
  rw [work_finishTask]
  split
  · rename_i hk
    exact ⟨nofun, fun hwork => absurd (hk ▸ hwork) (h r)⟩
  · exact Iff.rfl

theorem Manned.idle_offer (h : Manned e t) (item : Item) : Idle (some t) e (e.offer t item).2 := by
  have hcatch : Idle (some t) e (e.catchUp t) := by
    unfold catchUp
    split
    · exact (h.idle_invalidateQuietly.trans (idle_change ..)).trans (idle_change ..)
    · exact .refl _ e
  rw [offer_eq]
  split
  · exact .refl _ e
  · split
    · exact hcatch.trans (idle_change ..)
    · exact hcatch

theorem work_start (e : Engine) (k k' : TaskId) (t : TimelineId) (r : FetchRequest) :
    (e.modifyTask k fun task => { task with started := true }).work k' = some (.refetch t r) ↔
      e.work k' = some (.refetch t r) :=
  (idle_start e k).work k' (.refetch t r) (by simp)

theorem aside_start (h : ∀ r, e.work k ≠ some (.refetch t r)) :
    Aside t e (e.modifyTask k fun task => { task with started := true }) := by
  refine ⟨rfl, fun k' r => work_start e k k' t r, fun k' r hk' => ?_⟩
  have hne : k ≠ k' := by
    rintro rfl
    exact h r hk'
  unfold hasBegun modifyTask
  rw [List.getElem?_modify_ne _ _ hne]

-- The pump of a timeline for which there is no live item, or that of another one.
theorem aside_runPump {s : StreamId} (hm : Manned e t') (hk : e.work k = some (.pump t' s))
    (hnone : t' = t → ((e.channel s).receive k).1 = .nothing ∨ ((e.channel s).receive k).1 = .closed) :
    Aside t e (runPump k t' s 1 e) := by
  have hheard : Aside t e (e.modifyChannel s fun _ => ((e.channel s).receive k).2) :=
    aside_of_same rfl rfl
  have hm' : Manned (e.modifyChannel s fun _ => ((e.channel s).receive k).2) t' :=
    hm.idle (idle_modifyChannel e s _) (by simp)
  have hk' : (e.modifyChannel s fun _ => ((e.channel s).receive k).2).work k = some (.pump t' s) := hk
  simp only [runPump]
  refine hheard.trans ?_
  generalize e.modifyChannel s (fun _ => ((e.channel s).receive k).2) = e' at hm' hk' ⊢
  have hfinish : Aside t e' (e'.finishTask k) := aside_finishTask fun r hk => by
    rw [hk'] at hk
    cases hk
  have hother {received : Received} (heq : ((e.channel s).receive k).1 = received)
      (hsome : received ≠ .nothing ∧ received ≠ .closed) : t ≠ t' := by
    rintro rfl
    rcases hnone rfl with hnone | hnone
    · exact hsome.1 (heq.symm.trans hnone)
    · exact hsome.2 (heq.symm.trans hnone)
  split
  · exact .refl t e'
  · rename_i item hitem
    split
    · have hne := hother hitem (by simp)
      exact aside_of_idle hne (within_offer ..) (hm'.idle_offer item) (assigns_offer ..)
    · exact hfinish
  · rename_i missed hmissed
    have hne := hother hmissed (by simp)
    split
    · unfold recoverLag
      split
      · exact aside_of_idle hne (within_startRefetch ..) hm'.idle_startRefetch (assigns_startRefetch ..)
      · exact .refl t e'
    · exact hfinish
  · exact hfinish

-- A task that makes its request, or goes on to wait for the answer.
theorem poll_of_work (hk : e.work k = some (.refetch t r)) (halive : e.isAlive (.timeline t) = true) :
    e.poll k = (some ((e.timeline t).storage, r),
      e.modifyTask k fun task => { task with started := true }) := by
  obtain ⟨⟨job, started, aborted, finished⟩, htask, hlive, rfl⟩ := work_eq_some.mp hk
  obtain ⟨haborted, hfinished⟩ : aborted = false ∧ finished = false := by
    simpa [Task.isLive] using hlive
  unfold poll
  simp [htask, haborted, hfinished, halive]

theorem turn_of_work (hk : e.work k = some (.refetch t r)) (halive : e.isAlive (.timeline t) = true) :
    e.turn k = e.modifyTask k fun task => { task with started := true } := by
  rcases turn_cases e k with ⟨t', s, started, htask, -⟩ | ⟨-, heq⟩
  · have hk' : e.work k = some (.pump t' s) := work_eq_some.mpr ⟨_, htask, rfl, rfl⟩
    cases hk.symm.trans hk'
  · rw [heq, poll_of_work hk halive]

theorem hasBegun_start (hk : e.work k = some (.refetch t r)) :
    (e.modifyTask k fun task => { task with started := true }).hasBegun k = true := by
  obtain ⟨task, htask, -, -⟩ := work_eq_some.mp hk
  simp [hasBegun, modifyTask, htask]

-- The turn of a task that does not fill the buffer.
theorem aside_turn (hm : ∀ t, Manned e t) (hworks : Works storage t e (.turn k))
    (h : ∀ r, e.work k ≠ some (.refetch t r)) : Aside t e (e.turn k) := by
  rcases turn_cases e k with ⟨t', s, started, htask, heq⟩ | ⟨hpump, heq⟩
  · have hk : e.work k = some (.pump t' s) := work_eq_some.mpr ⟨_, htask, rfl, rfl⟩
    have hreceives : e.receives k = some (t', ((e.channel s).receive k).1) := by simp [receives, hk]
    exact heq ▸ aside_runPump (hm t') hk (hworks _ hreceives)
  · rw [heq]
    unfold poll
    split
    · exact .refl t e
    · rename_i job started aborted finished htask
      cases finished with
      | true => exact .refl t e
      | false =>
          cases aborted with
          | true => exact aside_finishTask h
          | false =>
              cases job with
              | pump t' s => exact absurd htask (hpump t' s started)
              | refetch t' r =>
                  simp only [Bool.false_eq_true, if_false]
                  split
                  · exact aside_start h
                  · exact aside_finishTask h

theorem tasks_completeRefetch (e : Engine) (t : TimelineId) (generation : Nat)
    (result : Except StorageError (List Item)) :
    (e.completeRefetch t generation result).tasks = e.tasks := by
  unfold completeRefetch
  split
  · rfl
  · cases result <;> rfl

theorem within_completeRefetch (e : Engine) (t : TimelineId) (generation : Nat)
    (result : Except StorageError (List Item)) :
    Within t e (e.completeRefetch t generation result) := by
  unfold completeRefetch
  split
  · exact .refl t e
  · cases result <;> exact (within_modifyTimeline ..).trans (within_modifyTimeline ..)

-- The answer to a task of another timeline.
theorem aside_completeTask (hne : t ≠ t') (hk : e.work k = some (.refetch t' r))
    (result : Except StorageError (List Item)) : Aside t e (e.completeTask k result) := by
  have hfinish : Aside t e (e.finishTask k) := aside_finishTask fun r' hk' => by
    cases hk.symm.trans hk'
    exact hne rfl
  obtain ⟨⟨job, started, aborted, finished⟩, htask, -, rfl⟩ := work_eq_some.mp hk
  unfold completeTask
  rw [htask]
  dsimp only
  split
  · have htasks := tasks_completeRefetch (e.finishTask k) t' r.generation result
    refine hfinish.trans ⟨(within_completeRefetch ..).others t hne, fun k' r' => ?_, fun k' r' _ => ?_⟩
    · rw [work_congr htasks]
    · exact hasBegun_congr htasks k'
  · exact hfinish

-- How far a timeline is with filling its buffer again, and what it has asked for since it began to
-- wait for that.
inductive Filling (t : TimelineId) (T : Timeline) (r : FetchRequest) (items : List Item) (e : Engine) :
    List FetchRequest → Prop
  | waiting {k : TaskId} (hT : e.timeline t = T) (hk : e.work k = some (.refetch t r))
      (hbegun : e.hasBegun k = false) : Filling t T r items e []
  | asked {k : TaskId} (hT : e.timeline t = T) (hk : e.work k = some (.refetch t r))
      (hbegun : e.hasBegun k = true) : Filling t T r items e [r]
  | filled (hT : e.timeline t = ((replenished T).absorb items).1) (hended : e.isFilling t = false) :
      Filling t T r items e [r]

theorem Filling.aside (h : Filling t T r items e log) (ha : Aside t e e') :
    Filling t T r items e' log := by
  cases h with
  | waiting hT hk hbegun =>
      exact .waiting (ha.timeline.trans hT) ((ha.work _ r).mpr hk) ((ha.begun _ r hk).trans hbegun)
  | asked hT hk hbegun =>
      exact .asked (ha.timeline.trans hT) ((ha.work _ r).mpr hk) ((ha.begun _ r hk).trans hbegun)
  | filled hT hended => exact .filled (ha.timeline.trans hT) (ha.isFilling.trans hended)

theorem work_of_isFilling (h : e.isFilling t = false) (k : TaskId) (r : FetchRequest) :
    e.work k ≠ some (.refetch t r) := fun hk =>
  Bool.noConfusion (h.symm.trans (isFilling_iff.mpr ⟨k, r, hk⟩))

-- A task that does not fill the buffer asks for nothing on behalf of the timeline.
theorem fetch?_of_work (h : ∀ r, e.work k ≠ some (.refetch t r)) : e.fetch? t (.turn k) = none := by
  simp only [fetch?]
  split
  · rename_i t' r hasks
    split
    · rename_i hboth
      obtain ⟨rfl, -⟩ := hboth
      obtain ⟨started, aborted, finished, htask⟩ := refetch_of_asks hasks
      have hdead : Task.isLive ⟨.refetch t' r, started, aborted, finished⟩ = false := by
        refine Bool.eq_false_iff.mpr fun hlive => ?_
        exact h r (work_eq_some.mpr ⟨_, htask, hlive, rfl⟩)
      unfold poll
      cases aborted <;> cases finished <;> simp_all [Task.isLive]
    · rfl
  · rfl

theorem fetch?_turn (hk : e.work k = some (.refetch t r)) (halive : e.isAlive (.timeline t) = true) :
    e.fetch? t (.turn k) = if e.hasBegun k then none else some r := by
  simp only [fetch?, asks_of_job (job_of_work hk), poll_of_work hk halive]
  cases e.hasBegun k <;> rfl

-- The answer to what a timeline asks for under the generation that it has.
theorem timeline_completeTask (hm : Manned e t) (hw : Wired e) (hk : e.work k = some (.refetch t r))
    (hg : r.generation = (e.timeline t).generation) (items : List Item) :
    (e.completeTask k (.ok items)).timeline t =
        ((replenished (e.timeline t)).absorb items).1 ∧
      (e.completeTask k (.ok items)).isFilling t = false := by
  have hb := background_finishTask e k
  have hactive : (e.timeline t).phase.isActive = true := by
    refine hm.refetch ?_
    rw [hm.refetches k r hk]
    rfl
  have halive : (e.finishTask k).isAlive (.timeline t) = true := by
    have halive := hw.alive_of_active hactive
    unfold isAlive at halive ⊢
    rwa [hb.timelines]
  obtain ⟨⟨job, started, aborted, finished⟩, htask, -, rfl⟩ := work_eq_some.mp hk
  have heq : e.completeTask k (.ok items) = (e.finishTask k).modifyTimeline t fun T =>
      ((replenished T).absorb items).1 := by
    have hnow : ¬ ((e.finishTask k).timeline t).generation ≠ r.generation := by
      rw [hb.timeline]
      exact not_not_intro hg.symm
    unfold completeTask
    rw [htask]
    dsimp only
    rw [if_pos halive]
    unfold completeRefetch
    rw [if_neg hnow]
    exact modifyTimeline_modifyTimeline ..
  constructor
  · rw [heq, timeline_modifyTimeline_self (hb.timelines ▸ lt_of_active hactive), hb.timeline]
  · refine Bool.eq_false_iff.mpr fun hfilling => ?_
    obtain ⟨k', r', hk'⟩ := isFilling_iff.mp hfilling
    rw [heq, work_modifyTimeline, work_finishTask] at hk'
    split at hk'
    · cases hk'
    · rename_i hne
      exact hne (hm.refetch_unique hk hk')

-- The turn of the task that fills the buffer: it makes its request unless it has made it before.
theorem Filling.turn (h : Filling t T r items e log) (hs : Staffed e t) (hw : Wired e)
    {r' : FetchRequest} (hk : e.work k = some (.refetch t r')) :
    Filling t T r items (e.turn k) (log ++ (e.fetch? t (.turn k)).toList) := by
  have halive := hs.alive hw hk
  have hbegun := hasBegun_start hk
  have hwork := work_start e k k t r'
  rw [turn_of_work hk halive, fetch?_turn hk halive]
  cases h with
  | waiting hT hk' hbefore =>
      obtain rfl := hs.refetch_unique hk hk'
      cases hk.symm.trans hk'
      rw [hbefore]
      exact .asked hT (hwork.mpr hk) hbegun
  | asked hT hk' hbefore =>
      obtain rfl := hs.refetch_unique hk hk'
      cases hk.symm.trans hk'
      rw [hbefore]
      exact .asked hT (hwork.mpr hk) hbegun
  | filled hT hended => exact absurd hk (work_of_isFilling hended k r')

-- The answer to it.
theorem Filling.answer (h : Filling t T r items e log) (hs : Staffed e t) (hw : Wired e)
    {r' : FetchRequest} (hk : e.work k = some (.refetch t r')) (hbegun : e.hasBegun k = true)
    {result : Except StorageError (List Item)} (hresult : r' = r → result = .ok items) :
    Filling t T r items (e.completeTask k result) log := by
  cases h with
  | waiting hT hk' hbefore =>
      obtain rfl := hs.refetch_unique hk hk'
      cases hbegun.symm.trans hbefore
  | asked hT hk' hbefore =>
      obtain rfl := hs.refetch_unique hk hk'
      cases hk.symm.trans hk'
      obtain ⟨hfilled, hended⟩ :=
        timeline_completeTask hs.toManned hw hk (hs.current k r hk) items
      rw [hresult rfl]
      exact .filled (hT ▸ hfilled) hended
  | filled hT hended => exact absurd hk (work_of_isFilling hended k r')

theorem tasks_nextTask (e : Engine) : ((e.nextTask.map Prod.snd).getD e).tasks = e.tasks := by
  unfold nextTask
  cases e.ready <;> rfl

-- What one move of background work comes to.
theorem Filling.after (h : Filling t T r items e log) (hw : Wired e) (hs : ∀ t, Staffed e t)
    (hstorage : (storage.query r.text r.before (some r.limit)).1 = .ok items)
    (hallows : e.allows m = true) (hworks : Works storage t e m) :
    Filling t T r items (e.after m) (log ++ (e.fetch? t m).toList) := by
  have haside (ha : Aside t e (e.after m)) (hnone : e.fetch? t m = none) :
      Filling t T r items (e.after m) (log ++ (e.fetch? t m).toList) := by
    rw [hnone, Option.toList_none, List.append_nil]
    exact h.aside ha
  cases m with
  | nextTask => exact haside (aside_of_same (tasks_nextTask e) (background_nextTask e).timelines) rfl
  | turn k =>
      by_cases hown : ∃ r', e.work k = some (.refetch t r')
      · obtain ⟨r', hk⟩ := hown
        exact h.turn (hs t) hw hk
      · have hnot : ∀ r, e.work k ≠ some (.refetch t r) := not_exists.mp hown
        exact haside (aside_turn (fun t => (hs t).toManned) hworks hnot) (fetch?_of_work hnot)
  | answer asker result =>
      cases asker with
      | operation o => cases hworks
      | task k =>
          obtain ⟨t', r', hk, htask⟩ := work_of_awaits (Bool.and_eq_true_iff.mp hallows).2
          by_cases hne : t = t'
          · subst hne
            have hasks := asks_of_task htask
            have hbegun : e.hasBegun k = true := by simp [hasBegun, htask]
            rw [show e.fetch? t (.answer (.task k) result) = none from rfl, Option.toList_none,
              List.append_nil]
            refine h.answer (hs t) hw hk hbegun ?_
            rintro rfl
            exact (hworks _ hasks rfl).trans hstorage
          · exact haside (aside_completeTask hne hk result) rfl
  | _ => cases hworks

theorem Works.unwatched (hworks : Works storage t e m) (hu : Unwatched e)
    (hallows : e.allows m = true) : Unwatched (e.after m) := by
  refine hu.after hallows fun q hm => ?_
  rw [hm] at hworks
  exact hworks

-- What a run of background work comes to.
theorem Filling.replay (h : Filling t T r items e log) (hu : Unwatched e)
    (hstorage : (storage.query r.text r.before (some r.limit)).1 = .ok items)
    (hworks : e.Follows (Works storage t) moves) :
    Filling t T r items (e.replay moves) (log ++ fetches t e moves) ∧ Unwatched (e.replay moves) := by
  induction moves generalizing e log with
  | nil =>
      rw [fetches, List.append_nil]
      exact ⟨h, hu⟩
  | cons m moves ih =>
      obtain ⟨hallows, hnow, hlater⟩ := hworks
      rw [fetches, ← List.append_assoc]
      exact ih (h.after hu.wired hu.staffed hstorage hallows hnow) (hnow.unwatched hu hallows) hlater

-- Background work leaves no call behind.
theorem Works.stack (hworks : Works storage t e m) (hallows : e.allows m = true) :
    e.stack = [] ∧ (e.after m).stack = [] := by
  cases m with
  | nextTask =>
      have hrest := List.isEmpty_iff.mp hallows
      exact ⟨hrest, (background_nextTask e).stack.trans hrest⟩
  | turn k =>
      have hrest := List.isEmpty_iff.mp hallows
      refine ⟨hrest, Eq.trans ?_ hrest⟩
      cases polls e k with
      | background hb => exact hb.stack
      | offered htask halive hitem hb heq =>
          change (e.turn k).stack = e.stack
          rw [heq, (within_offer ..).stack, hb.stack]
      | lagged htask halive hactive hmissed hb heq =>
          change (e.turn k).stack = e.stack
          rw [heq, (within_startRefetch ..).stack, hb.stack]
  | answer asker result =>
      cases asker with
      | operation o => cases hworks
      | task k =>
          have hrest := stack_of_allows hallows
          refine ⟨hrest, Eq.trans ?_ hrest⟩
          change (e.completeTask k result).stack = e.stack
          cases replenishes e k result with
          | background hb => exact hb.stack
          | filled hasks halive hg hb heq =>
              rw [heq]
              exact hb.stack
          | failed hasks halive hg hb heq =>
              rw [heq]
              exact hb.stack
  | _ => cases hworks

theorem stack_replay_works (hrest : e.stack = []) (hworks : e.Follows (Works storage t) moves) :
    (e.replay moves).stack = [] := by
  induction moves generalizing e with
  | nil => exact hrest
  | cons m moves ih => exact ih (hworks.2.1.stack hworks.1).2 hworks.2.2

-- A request that was made can be answered.
theorem finish_asked (hs : Staffed e t) (hw : Wired e) (hrest : e.stack = [])
    (hstorage : (storage.query r.text r.before (some r.limit)).1 = .ok items)
    (hk : e.work k = some (.refetch t r)) (hbegun : e.hasBegun k = true) :
    e.Follows (Works storage t) [.answer (.task k) (.ok items)] ∧
      (e.replay [.answer (.task k) (.ok items)]).isFilling t = false := by
  obtain ⟨⟨job, started, aborted, finished⟩, htask, hlive, rfl⟩ := work_eq_some.mp hk
  obtain ⟨rfl, rfl⟩ : aborted = false ∧ finished = false := by simpa [Task.isLive] using hlive
  obtain rfl : started = true := by simpa [hasBegun, htask] using hbegun
  have hasks := asks_of_task htask
  refine ⟨⟨?_, ?_, trivial⟩, (timeline_completeTask hs.toManned hw hk (hs.current k r hk) items).2⟩
  · simp [allows, awaits, hrest, htask]
  · rintro x hx -
    cases hasks.symm.trans hx
    exact hstorage.symm

-- A buffer that is to be filled again can be, however far that has come.
theorem Filling.finish (h : Filling t T r items e log) (hu : Unwatched e) (hrest : e.stack = [])
    (hstorage : (storage.query r.text r.before (some r.limit)).1 = .ok items) :
    ∃ more, e.Follows (Works storage t) more ∧ (e.replay more).isFilling t = false := by
  cases h with
  | filled hT hended => exact ⟨[], trivial, hended⟩
  | asked hT hk hbegun => exact ⟨_, finish_asked (hu.staffed t) hu.wired hrest hstorage hk hbegun⟩
  | @waiting k hT hk hbegun =>
      have hturn : e.after (.turn k) = e.modifyTask k fun task => { task with started := true } :=
        turn_of_work hk ((hu.staffed t).alive hu.wired hk)
      have hallows : e.allows (.turn k) = true := by simp [allows, hrest]
      have hworks : Works storage t e (.turn k) := by simp [Works, receives, hk]
      have hu' := hworks.unwatched hu hallows
      have hk' : (e.after (.turn k)).work k = some (.refetch t r) :=
        hturn ▸ (work_start e k k t r).mpr hk
      obtain ⟨hfollows, hended⟩ := finish_asked (hu'.staffed t) hu'.wired (hworks.stack hallows).2
        hstorage hk' (hturn ▸ hasBegun_start hk)
      exact ⟨_ :: _, ⟨hallows, hworks, hfollows⟩, hended⟩

-- All of that for a timeline that waits with its buffer to be filled.
theorem Filling.settles (h : Filling t T r items e []) (hu : Unwatched e) (hrest : e.stack = [])
    (hstorage : (storage.query r.text r.before (some r.limit)).1 = .ok items)
    (hworks : e.Follows (Works storage t) moves) :
    (∃ more, (e.replay moves).Follows (Works storage t) more ∧
      ((e.replay moves).replay more).isFilling t = false) ∧
    ((e.replay moves).isFilling t = false → fetches t e moves = [r] ∧
      (e.replay moves).timeline t = ((replenished T).absorb items).1) := by
  obtain ⟨hfilling, hu'⟩ := h.replay hu hstorage hworks
  refine ⟨hfilling.finish hu' (stack_replay_works hrest hworks) hstorage, fun hended => ?_⟩
  rw [List.nil_append] at hfilling
  generalize fetches t e moves = log at hfilling ⊢
  cases hfilling with
  | waiting hT hk | asked hT hk => exact absurd hk (work_of_isFilling hended _ r)
  | filled hT => exact ⟨rfl, hT⟩

end FilteredFeed.Engine
