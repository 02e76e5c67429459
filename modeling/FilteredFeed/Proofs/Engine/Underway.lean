import FilteredFeed.Pattern.Builtin
import FilteredFeed.Proofs.Engine.Leaves
import FilteredFeed.Proofs.Engine.Operations
import FilteredFeed.Proofs.Engine.Overtaken
import FilteredFeed.Proofs.Engine.QueryEffects
import Mathlib.Data.List.Induction

namespace FilteredFeed.Engine

open FilteredFeed.Feed FilteredFeed.Filter FilteredFeed.Listener FilteredFeed.Timeline
open FilteredFeed.Scenario (Asker)

section

variable [Patterns]
variable {e e' : Engine} {t : TimelineId} {o o' : OperationId} {q : QueryId} {m : Move}
variable {T T' : Timeline} {r : FetchRequest} {moves : List Move}

-- How a timeline comes to be activating, and how that ends.
inductive Turns (e : Engine) (t : TimelineId) (m : Move) (T : Timeline) : Prop
  | begun (hm : m = .startActivation t true) (hphase : (e.timeline t).phase = .inactive)
      (hg : T.generation = (e.timeline t).generation + 1) (hphase' : T.phase = .activating)
  | passed (hg : (e.timeline t).generation < T.generation) (hphase' : T.phase ≠ .activating)
  | kept (hg : T.generation = (e.timeline t).generation) (hepoch : T.epoch = (e.timeline t).epoch)
      (hphase : T.phase = .activating ↔ (e.timeline t).phase = .activating)
  -- storage has answered
  | filled {a : Asker} {result : Except StorageError (List Item)} {r : FetchRequest}
      (hm : m = .answer a result) (hasks : e.asks a = some (t, r))
      (hr : r.generation = (e.timeline t).generation)
      (hphase : (e.timeline t).phase = .activating) (hphase' : T.phase = .active)
      (hg : T.generation = (e.timeline t).generation) (hepoch : T.epoch = (e.timeline t).epoch)

theorem turns_alike (h : Turns e t m T) (halike : T.Alike T') : Turns e t m T' := by
  obtain ⟨_, _, _, rfl⟩ := halike
  cases h with
  | begun hm hphase hg hphase' => exact .begun hm hphase hg hphase'
  | passed hg hphase' => exact .passed hg hphase'
  | kept hg hepoch hphase => exact .kept hg hepoch hphase
  | filled hm hasks hr hphase hphase' hg hepoch =>
      exact .filled hm hasks hr hphase hphase' hg hepoch

theorem phase_restarted_ne (e : Engine) (t : TimelineId) : (e.restarted t).phase ≠ .activating := by
  rw [phase_restarted]
  cases (e.timeline t).phase <;> simp [Phase.isActive]

theorem turns_restarted (hg : (e'.timeline t).generation = (e.timeline t).generation) :
    Turns e t m (e'.restarted t) := by
  refine .passed ?_ (phase_restarted_ne e' t)
  rw [generation_restarted, hg]
  exact Nat.lt_succ_self _

-- Storage answers under the generation of the timeline.
theorem turns_answered {a : Asker} {result : Except StorageError (List Item)} {phase : Phase}
    (hasks : e.asks a = some (t, r)) (hr : r.generation = (e.timeline t).generation)
    (hphase : phase = (e.timeline t).phase ∨ phase = .active) (hT : T.phase = phase)
    (hg : T.generation = (e.timeline t).generation) (hepoch : T.epoch = (e.timeline t).epoch) :
    Turns e t (.answer a result) T := by
  rcases hphase with rfl | rfl
  · exact .kept hg hepoch (by rw [hT])
  · by_cases hactivating : (e.timeline t).phase = .activating
    · exact .filled rfl hasks hr hactivating hT hg hepoch
    · refine .kept hg hepoch ?_
      simp [hT, hactivating]

theorem generation_leaveQuery (e : Engine) (t : TimelineId) (query : Option QueryId) :
    ((e.leaveQuery t query).timeline t).generation = (e.timeline t).generation := by
  rcases timeline_leaveQuery_or e t query with hT | hT
  · rw [hT]
  · rw [hT]
    rfl

theorem Becomes.turns (h : Becomes e t m T) (hw : Wired e) : Turns e t m T := by
  induction h with
  | kept | unmarked | enrolled | counted => exact .kept rfl rfl Iff.rfl
  | @dropped m T h hdead ih =>
      refine .passed ?_ (by simp [Engine.stopped])
      cases ih with
      | begun hm hphase hg => exact Nat.lt_succ_of_lt (hg ▸ Nat.lt_succ_self _)
      | passed hg => exact Nat.lt_succ_of_lt hg
      | kept hg | filled hm hasks hr hphase hphase' hg => exact Nat.lt_succ_of_le (Nat.le_of_eq hg.symm)
  | told | invalidated => exact turns_restarted rfl
  | @refreshed q rest hs hstale =>
      refine turns_restarted ?_
      rw [timeline_enrol_popped hw hs rfl]
  | @refitted q o rest hs hstale =>
      obtain ⟨events, hT⟩ := refitted_eq (({ e with stack := rest } : Engine).enrol t q) t
      rw [hT, timeline_enrol_popped hw hs rfl]
      exact .kept rfl rfl Iff.rfl
  | @emitted delta rest hs =>
      obtain ⟨events, hT⟩ := emit_eq (e.timeline t) delta
      rw [hT]
      exact .kept rfl rfl Iff.rfl
  | stopped | rolledBack => exact .passed (Nat.lt_succ_self _) (by simp [Engine.stopped])
  | @requeried query hphase hquery => exact turns_restarted (generation_leaveQuery e t query)
  | ended => exact .passed (Nat.lt_succ_self _) (by simp [Engine.ended])
  | launched hphase => exact .begun rfl hphase rfl rfl
  | @offered m item T hm hactive hT =>
      rcases tested_cases hT with ⟨-, buffer, events, unread, notified, rfl⟩ |
        ⟨-, buffer, events, unread, notified, rfl⟩
      · exact .kept rfl rfl Iff.rfl
      · refine .passed ?_ (phase_restarted_ne e t)
        exact (generation_restarted e t).symm ▸ Nat.lt_succ_self _
  | @absorbed a r items phase hawaits hasks hg hp =>
      obtain ⟨events, hT⟩ := absorb_eq ({ e.timeline t with phase } : Timeline) items
      rw [hT]
      exact turns_answered hasks hg hp rfl rfl rfl
  | failed hawaits hasks hg hp => exact turns_answered hasks hg hp rfl rfl rfl
  | made hnew =>
      have hT := timeline_of_le (Nat.le_of_eq hnew.symm)
      exact .kept (by rw [hT]; rfl) (by rw [hT]; rfl) (by rw [hT]; exact Iff.rfl)

theorem turns_after (hreached : IsReached e) (hallows : e.allows m = true) (t : TimelineId) :
    Turns e t m ((e.after m).timeline t) := by
  by_cases ht : t < (e.after m).timelines.length
  · obtain ⟨T, hT, halike⟩ := leaves_after hreached.wired hallows ht
    exact turns_alike (hT.turns hreached.wired) halike
  · have hnone := timeline_of_le (Nat.le_of_not_lt ht)
    have hnone' := timeline_of_le (Nat.le_of_not_lt fun ht' => ht (lt_after ht' hallows))
    rw [hnone]
    exact .kept (by rw [hnone']) (by rw [hnone']) (by rw [hnone'])

-- A refetch that comes to its end leaves a timeline activating.
theorem phase_completeTask (hphase : (e.timeline t).phase = .activating) (k : TaskId)
    (result : Except StorageError (List Item)) :
    ((e.completeTask k result).timeline t).phase = .activating := by
  have hkept {e' : Engine} (hb : Background e e') (t' : TimelineId) {f : Timeline → Timeline}
      (hf : ∀ T, (f T).phase = (replenished T).phase) :
      ((e'.modifyTimeline t' f).timeline t).phase = .activating := by
    rw [← hb.timeline] at hphase
    rcases timeline_modifyTimeline e' t' t f with hT | ⟨rfl, hT⟩
    · rwa [hT]
    · rw [hT, hf, replenished, hphase]
      rfl
  cases replenishes e k result with
  | background hb => rwa [hb.timeline]
  | @filled t' r items e₁ hasks halive hg hb heq =>
      rw [heq]
      refine hkept hb t' fun T => ?_
      obtain ⟨events, habsorbed⟩ := absorb_eq (replenished T) items
      rw [habsorbed]
  | @failed t' r cause e₁ hasks halive hg hb heq =>
      rw [heq]
      exact hkept hb t' fun T => rfl

theorem Loses.phase (h : Loses t e e') :
    (e'.timeline t).phase = (e.timeline t).phase ∨ (e'.timeline t).phase = .inactive := by
  rcases h with halike | ⟨halike, -⟩
  · exact .inl halike.phase
  · exact .inr halike.phase

-- An activation that storage answers has come to its end.
theorem phase_answered (ht : t < e.timelines.length)
    (hop : e.operations[o]? = some ⟨t, .activation, .waiting r⟩)
    (hr : r.generation = (e.timeline t).generation) (result : Except StorageError (List Item)) :
    ((e.after (.answer (.operation o) result)).timeline t).phase ≠ .activating := by
  change ((e.complete o result).timeline t).phase ≠ .activating
  cases completes e o result with
  | unasked hnone heq => exact absurd hop (hnone _ _ _)
  | ended hop' hwhy heq =>
      cases hop.symm.trans hop'
      rcases hwhy with hpast | ⟨hpage, -⟩
      · exact absurd hr hpast
      · cases hpage
  | @merged t' kind r' items phase outcome hop' hg hphase heq =>
      cases hop.symm.trans hop'
      obtain rfl : phase = .active := hphase.elim (fun h => nomatch h.1) And.right
      obtain ⟨events, habsorbed⟩ := absorb_eq { e.timeline t with phase := .active } items
      have hactive : ((e.modifyTimeline t fun T =>
          (({ T with phase := .active } : Timeline).absorb items).1).timeline t).phase = .active := by
        rw [timeline_modifyTimeline_self ht, habsorbed]
      rw [heq]
      rcases (loses_close (e.modifyTimeline t _) t o (.done (.ok outcome))).phase with hp | hp
      · rw [hp, hactive]
        decide
      · rw [hp]
        decide
  | @rolledBack t' r' cause hop' hg heq =>
      cases hop.symm.trans hop'
      have hT : ((e.setStatus o .running).teardown t).2.timeline t = stopped (e.timeline t) :=
        timeline_teardown (e := e.setStatus o .running) ht
      have hpushed (e : Engine) (frames : List Frame) :
          (e.push frames).timeline t = e.timeline t := rfl
      simp [heq, hpushed, hT, Engine.stopped]

-- A fetch of older items that comes to its end does not make a timeline active.
theorem phase_paged {t' : TimelineId} (hop : e.operations[o]? = some ⟨t', .page, .waiting r⟩)
    (hphase : (e.timeline t).phase = .activating) (result : Except StorageError (List Item)) :
    ((e.complete o result).timeline t).phase ≠ .active := by
  have hclosed {e : Engine} (h : (e.timeline t).phase = .activating) (status : Status) :
      ((e.close o status).timeline t).phase ≠ .active := by
    rcases (loses_close e t o status).phase with hp | hp
    · simp [hp, h]
    · simp [hp]
  cases completes e o result with
  | unasked hnone heq => exact absurd hop (hnone _ _ _)
  | ended hop' hwhy heq =>
      rw [heq]
      exact hclosed hphase _
  | @merged t'' kind r' items phase outcome hop' hg hkind heq =>
      cases hop.symm.trans hop'
      obtain rfl : phase = (e.timeline t').phase := hkind.elim And.right (fun h => nomatch h.1)
      rw [heq]
      refine hclosed ?_ _
      rcases timeline_modifyTimeline e t' t fun T =>
        (({ T with phase := (e.timeline t').phase } : Timeline).absorb items).1 with hT | ⟨rfl, hT⟩
      · exact hT ▸ hphase
      · obtain ⟨events, habsorbed⟩ := absorb_eq (e.timeline t) items
        rw [hT, habsorbed]
        exact hphase
  | rolledBack hop' hg heq => cases hop.symm.trans hop'

-- An activation makes a timeline active that is activating, and nothing else does.
theorem activation_of_active {a : Asker} {result : Except StorageError (List Item)}
    (hasks : e.asks a = some (t, r)) (hphase : (e.timeline t).phase = .activating)
    (hphase' : ((e.after (.answer a result)).timeline t).phase = .active) :
    ∃ o, a = .operation o ∧ e.operations[o]? = some ⟨t, .activation, .waiting r⟩ := by
  cases a with
  | task k =>
      have hkept : ((e.after (.answer (.task k) result)).timeline t).phase = .activating :=
        phase_completeTask hphase k result
      cases hkept.symm.trans hphase'
  | operation o =>
      obtain ⟨kind, hop⟩ := waiting_of_asks hasks
      cases kind with
      | activation => exact ⟨o, rfl, hop⟩
      | page => exact absurd hphase' (phase_paged hop hphase result)

-- An activation of a timeline is under way, under the generation that the timeline has: it waits for
-- storage, or is about to attach the timeline.
def Awaited (e : Engine) (t : TimelineId) (o : OperationId) : Prop :=
  ∃ r, e.operations[o]? = some ⟨t, .activation, .waiting r⟩ ∧
    r.generation = (e.timeline t).generation

inductive Underway (e : Engine) (t : TimelineId) (o : OperationId) : Prop
  | awaited (h : e.Awaited t o)
  | attaching {q : QueryId}
      (h : .attach t q (e.timeline t).epoch (.activation o (e.timeline t).generation) ∈ e.stack)

-- What is waited for after a move was waited for before, or an activation has attached its timeline, or
-- the move has begun an activation.
theorem Conducts.awaited_before (h : Conducts e m e') (hengaged : Engaged e)
    (hop : e'.operations[o]? = some ⟨t, .activation, .waiting r⟩) :
    e.operations[o]? = some ⟨t, .activation, .waiting r⟩ ∨
      (r.generation = (e.timeline t).generation ∧ ∃ q, .attach t q (e.timeline t).epoch
        (.activation o (e.timeline t).generation) ∈ e.stack) ∨
      (o = e.operations.length ∧ (e.timeline t).phase = .inactive ∧
        (e'.timeline t).phase = .activating) := by
  have hset {e₁ : Engine} {o' : OperationId} {status : Status}
      (hstatus : ∀ r, status ≠ .waiting r)
      (hop : (e₁.setStatus o' status).operations[o]? = some ⟨t, .activation, .waiting r⟩) :
      e₁.operations[o]? = some ⟨t, .activation, .waiting r⟩ := by
    by_cases hne : o' = o
    · subst hne
      cases hold : e₁.operations[o']? with
      | none => simp [setStatus, hold] at hop
      | some operation =>
          obtain ⟨t', kind, status'⟩ := operation
          rw [getElem?_setStatus_self hold] at hop
          exact absurd (congrArg Operation.status (Option.some.inj hop)) (hstatus r)
    · rwa [getElem?_setStatus_ne hne] at hop
  cases h with
  | aloof hm h' | yielded hs hpast h' =>
      rw [h'.operations] at hop
      exact .inl hop
  | @awaited t₀ q o₀ rest r₀ _ hs hr h' =>
      rw [h'.operations] at hop
      by_cases hne : o₀ = o
      · subst hne
        have hbegun := hengaged.attaching _ _ _ _ _ (mem_conducting hs rfl)
        have hnow := getElem?_setStatus_self (e := { e with stack := rest }) hbegun (.waiting r₀)
        cases hnow.symm.trans hop
        exact .inr (.inl ⟨hr, q, hs ▸ List.mem_cons_self⟩)
      · rw [getElem?_setStatus_ne hne] at hop
        exact .inl hop
  | finished hs h' =>
      rw [h'.operations] at hop
      exact .inl (hset (fun _ hwaits => by cases hwaits) hop)
  | answered hawaits h' | failing hawaits hs h' | cancelled hawaits h' =>
      rw [h'.operations] at hop
      exact .inl (hset (fun _ hwaits => by cases hwaits) hop)
  | refused hm h' | attaching hs hphase hphase' hepoch h' =>
      rw [h'.operations] at hop
      rcases before_or_begun hop with hold | ⟨-, hnew⟩
      · exact .inl hold
      · cases hnew
  | requested hm hr hkind h' =>
      rw [h'.operations] at hop
      rcases before_or_begun hop with hold | ⟨rfl, hnew⟩
      · exact .inl hold
      · cases hnew
        exact .inr (.inr ⟨rfl, hkind rfl⟩)

-- What is to attach a timeline after a move was so before, or the move has begun an activation.
theorem Conducts.attaching_before (h : Conducts e m e') {epoch generation : Nat}
    (hf : .attach t q epoch (.activation o generation) ∈ e'.stack) :
    .attach t q epoch (.activation o generation) ∈ e.stack ∨
      o = e.operations.length ∧ (e.timeline t).phase = .inactive ∧
        (e'.timeline t).phase = .activating := by
  cases h with
  | aloof hm h' | answered hawaits h' | cancelled hawaits h' => exact .inl ((h'.mem rfl).mp hf)
  | refused hm h' | requested hm hr hkind h' => exact .inl ((h'.mem rfl).mp hf)
  | awaited hs hr h' | finished hs h' =>
      exact .inl (hs ▸ List.mem_cons_of_mem _ ((h'.mem rfl).mp hf))
  | yielded hs hpast h' =>
      rcases List.mem_cons.mp ((h'.mem rfl).mp hf) with hf | hf
      · cases hf
      · exact .inl (hs ▸ List.mem_cons_of_mem _ hf)
  | failing hawaits hs h' =>
      rcases List.mem_cons.mp ((h'.mem rfl).mp hf) with hf | hf
      · cases hf
      · exact .inl hf
  | attaching hs hphase hphase' hepoch h' =>
      rcases List.mem_cons.mp ((h'.mem rfl).mp hf) with hf | hf
      · cases hf
        exact .inr ⟨rfl, hphase, hphase'⟩
      · exact .inl hf

-- An activation that is under way goes on, or storage answers it, or it is dropped.
theorem Underway.after (h : Underway e t o) (hengaged : Engaged e) (hc : Conducts e m e')
    (hg : (e'.timeline t).generation = (e.timeline t).generation)
    (hepoch : (e'.timeline t).epoch = (e.timeline t).epoch) :
    Underway e' t o ∨ m.settles o = true ∧ e.Awaited t o := by
  cases h with
  | awaited h =>
      obtain ⟨r, hop, hr⟩ := h
      cases hsettles : m.settles o with
      | true => exact .inr ⟨rfl, r, hop, hr⟩
      | false =>
          refine .inl (.awaited ⟨r, hengaged.stays hc hop ?_ fun _ => hsettles, hr.trans hg.symm⟩)
          intro hrunning
          cases hrunning
  | @attaching q hf =>
      have hkept (h : .attach t q (e.timeline t).epoch
          (.activation o (e.timeline t).generation) ∈ e'.stack) : Underway e' t o := by
        rw [← hg, ← hepoch] at h
        exact .attaching h
      refine .inl ?_
      cases hc with
      | aloof hm h' | answered hawaits h' | cancelled hawaits h' | refused hm h'
      | requested hm hr hkind h' => exact hkept ((h'.mem rfl).mpr hf)
      | @awaited t₀ q₀ o₀ rest r₀ _ hs hr h' =>
          cases hengaged.eq_head hs rfl hf rfl
          have hbegun := hengaged.attaching _ _ _ _ _ (mem_conducting hs rfl)
          have hnow := getElem?_setStatus_self (e := { e with stack := rest }) hbegun (.waiting r₀)
          exact .awaited ⟨r₀, h'.operations ▸ hnow, hr.trans hg.symm⟩
      | yielded hs hpast h' =>
          cases hengaged.eq_head hs rfl hf rfl
          rcases hpast with hpast | hpast
          · exact absurd rfl hpast
          · exact absurd rfl hpast
      | finished hs h' => cases hengaged.eq_head hs rfl hf rfl
      | attaching hs | failing hawaits hs =>
          rw [hs] at hf
          cases hf

-- An activation is over once storage has answered it, or it was dropped.
theorem Conducts.over (h : Conducts e m e') (hengaged : Engaged e) (hsettles : m.settles o = true)
    (hawaited : e.Awaited t o) : ¬ Underway e' t o := by
  obtain ⟨r, hop, -⟩ := hawaited
  obtain ⟨status, hop', hwaits, -⟩ := h.settled hsettles hop
  rintro (⟨r', hwaiting, -⟩ | ⟨hattach⟩)
  · cases hop'.symm.trans hwaiting
    exact hwaits r' rfl
  · rcases h.attaching_before hattach with hf | ⟨rfl, -⟩
    · have hrunning := hengaged.attaching _ _ _ _ _ (List.mem_filter.mpr ⟨hf, rfl⟩)
      cases hop.symm.trans hrunning
    · exact absurd (List.getElem?_eq_some_iff.mp hop).1 (Nat.lt_irrefl _)

-- An activation was dropped while storage was asked, and its timeline has had its generation since.
def Abandoned (t : TimelineId) (o : OperationId) (moves : List Move) : Prop :=
  ∃ before later, moves = before ++ .cancel o :: later ∧ (({} : Engine).replay before).Awaited t o ∧
    ((({} : Engine).replay before).timeline t).generation =
      ((({} : Engine).replay moves).timeline t).generation

theorem Abandoned.cancelled (h : Abandoned t o moves) (hruns : ({} : Engine).Runs moves) :
    (({} : Engine).replay moves).operations[o]? = some ⟨t, .activation, .cancelled⟩ := by
  obtain ⟨before, later, rfl, ⟨r, hop, -⟩, -⟩ := h
  obtain ⟨hbefore, hallows, -, hlater⟩ := follows_append.mp hruns
  have hengaged := (isReached_replay hbefore).engaged
  have hc := conducts_after hallows
  obtain ⟨status, hop', -, hcancelled⟩ := hc.settled (by simp [Move.settles]) hop
  obtain rfl := hcancelled rfl
  rw [replay_append]
  exact (hengaged.conducts hc).over_replay hop' (by simp) (by simp) hlater

theorem Abandoned.concat (h : Abandoned t o moves)
    (hg : ((({} : Engine).replay (moves ++ [m])).timeline t).generation =
      ((({} : Engine).replay moves).timeline t).generation) : Abandoned t o (moves ++ [m]) := by
  obtain ⟨before, later, rfl, hawaited, hsame⟩ := h
  exact ⟨before, later ++ [m], by simp, hawaited, hsame.trans hg.symm⟩

theorem Abandoned.of_concat (hruns : ({} : Engine).Runs (moves ++ [m]))
    (h : Abandoned t o (moves ++ [m])) :
    ((({} : Engine).replay (moves ++ [m])).timeline t).generation =
        ((({} : Engine).replay moves).timeline t).generation ∧
      (Abandoned t o moves ∨ m = .cancel o ∧ (({} : Engine).replay moves).Awaited t o) := by
  obtain ⟨before, later, hsplit, hawaited, hsame⟩ := h
  rcases later.eq_nil_or_concat with rfl | ⟨later, m', rfl⟩
  · obtain ⟨rfl, hm⟩ := List.append_inj' hsplit rfl
    exact ⟨hsame.symm, .inr ⟨List.singleton_inj.mp hm, hawaited⟩⟩
  · obtain ⟨rfl, -⟩ : moves = before ++ .cancel o :: later ∧ [m] = [m'] :=
      List.append_inj' (by simpa using hsplit) rfl
    obtain ⟨hmoves, hlast⟩ := follows_append.mp hruns
    obtain ⟨hbefore, hsince⟩ := follows_append.mp hmoves
    have hreached := isReached_replay hbefore
    have hreached' := isReached_replay hmoves
    have hle := generation_le_replay hreached.sound hreached.wired hsince t
    have hle' := generation_le_replay hreached'.sound hreached'.wired hlast t
    rw [← replay_append] at hle hle'
    have hg := Nat.le_antisymm (hsame ▸ hle) hle'
    exact ⟨hg, .inl ⟨before, later, rfl, hawaited, hsame.trans hg⟩⟩

-- Why a timeline is activating.
inductive Explains (t : TimelineId) (moves : List Move) (o : OperationId) : Prop
  | underway (h : Underway (({} : Engine).replay moves) t o)
  | abandoned (h : Abandoned t o moves)

theorem Turns.epoch (h : Turns e t m T) (hg : T.generation = (e.timeline t).generation) :
    T.epoch = (e.timeline t).epoch := by
  cases h with
  | begun hm hphase hg' => exact absurd (hg'.symm.trans hg) (Nat.succ_ne_self _)
  | passed hg' => exact absurd hg (Nat.ne_of_gt hg')
  | kept hg hepoch | filled hm hasks hr hphase hphase' hg hepoch => exact hepoch

-- What explains it after a move did so before, under the same generation, or the move has begun an
-- activation.
theorem Explains.before (h : Explains t (moves ++ [m]) o)
    (hruns : ({} : Engine).Runs (moves ++ [m])) :
    ((({} : Engine).replay (moves ++ [m])).timeline t).generation =
        ((({} : Engine).replay moves).timeline t).generation ∧ Explains t moves o ∨
      o = (({} : Engine).replay moves).operations.length ∧
        ((({} : Engine).replay moves).timeline t).phase = .inactive ∧
        ((({} : Engine).replay (moves ++ [m])).timeline t).phase = .activating := by
  obtain ⟨hmoves, hallows, -⟩ := follows_append.mp hruns
  have hreached := isReached_replay hmoves
  cases h with
  | abandoned h =>
      obtain ⟨hg, hbefore | ⟨-, hawaited⟩⟩ := h.of_concat hruns
      · exact .inl ⟨hg, .abandoned hbefore⟩
      · exact .inl ⟨hg, .underway (.awaited hawaited)⟩
  | underway h =>
      have hturns := turns_after hreached hallows t
      have hc := conducts_after hallows
      have hmono := (comes_after hreached.sound hreached.wired hallows).2 t
      have hle := hmono.generation_le
      rw [replay_concat] at h ⊢
      generalize hbefore : ({} : Engine).replay moves = e at *
      cases h with
      | awaited h =>
          obtain ⟨r, hop, hr⟩ := h
          rcases hc.awaited_before hreached.engaged hop with hold | ⟨hr', q, hf⟩ | hbegun
          · have hearlier := ((hreached.wired.bound t).begun o r hold).1
            have hg := Nat.le_antisymm (hr ▸ hearlier) hle
            exact .inl ⟨hg, .underway (hbefore ▸ .awaited ⟨r, hold, hr.trans hg⟩)⟩
          · exact .inl ⟨hr.symm.trans hr', .underway (hbefore ▸ .attaching hf)⟩
          · exact .inr hbegun
      | attaching hf =>
          rcases hc.attaching_before hf with hold | hbegun
          · have hg := Nat.le_antisymm (hreached.sound.window _ _ _ _ _ hold).2.2.1 hle
            rw [hg, hturns.epoch hg] at hold
            exact .inl ⟨hg, .underway (hbefore ▸ .attaching hold)⟩
          · exact .inr hbegun

-- An activation of a timeline is awaited or was abandoned exactly while the timeline is activating,
-- and it is the only one.
structure Explained (t : TimelineId) (moves : List Move) : Prop where
  held : ((({} : Engine).replay moves).timeline t).phase = .activating → ∃ o, Explains t moves o
  activating : ∀ o, Explains t moves o →
    ((({} : Engine).replay moves).timeline t).phase = .activating
  unique : ∀ o o', Explains t moves o → Explains t moves o' → o = o'

theorem explained_of_none (hphase : ((({} : Engine).replay moves).timeline t).phase ≠ .activating)
    (hnone : ∀ o, ¬ Explains t moves o) : Explained t moves where
  held h := absurd h hphase
  activating o h := absurd h (hnone o)
  unique o _ h := absurd h (hnone o)

-- While a timeline keeps its generation, what explains its phase goes on doing so, unless storage
-- answers the activation.
theorem Explains.concat (h : Explains t moves o) (hruns : ({} : Engine).Runs (moves ++ [m]))
    (hg : ((({} : Engine).replay (moves ++ [m])).timeline t).generation =
      ((({} : Engine).replay moves).timeline t).generation) :
    Explains t (moves ++ [m]) o ∨
      ∃ result, m = .answer (.operation o) result ∧ (({} : Engine).replay moves).Awaited t o := by
  obtain ⟨hmoves, hallows, -⟩ := follows_append.mp hruns
  have hreached := isReached_replay hmoves
  have hconcat := replay_concat {} moves m
  cases h with
  | abandoned h => exact .inl (.abandoned (h.concat hg))
  | underway h =>
      have hepoch := (turns_after hreached hallows t).epoch (hconcat ▸ hg)
      rcases h.after hreached.engaged (conducts_after hallows) (hconcat ▸ hg) hepoch with
        hstill | ⟨hsettles, hawaited⟩
      · exact .inl (.underway (hconcat ▸ hstill))
      · cases m with
        | cancel o' =>
            obtain rfl : o' = o := beq_iff_eq.mp hsettles
            exact .inl (.abandoned ⟨moves, [], rfl, hawaited, hg.symm⟩)
        | answer a result =>
            cases a with
            | operation o' =>
                obtain rfl : o' = o := beq_iff_eq.mp hsettles
                exact .inr ⟨result, rfl, hawaited⟩
            | task k => cases hsettles
        | step | leaveObserver | addQuery | addChannel | addTimeline | setExpression | setSource
        | activateQuery | deactivateQuery | compile | listen | unsubscribe | releaseObserver | retain
        | drop | deactivate | invalidate | dispose | setQuery | accepts | takeUnread | offer | publish
        | closeStream | startActivation | startPage | wake | nextTask | turn => cases hsettles

-- An activation begins, and is under way.
theorem explains_begun (hallows : (({} : Engine).replay moves).allows (.startActivation t true) = true)
    (hphase : ((({} : Engine).replay moves).timeline t).phase = .inactive) :
    Explains t (moves ++ [.startActivation t true])
      (({} : Engine).replay moves).operations.length := by
  obtain ⟨hlaunches, -⟩ := launches_startActivation (isAlive_of_allows hallows) hphase
  refine .underway (replay_concat {} moves (.startActivation t true) ▸ ?_)
  cases hlaunches with
  | attaching h => exact .attaching ((h.mem rfl).mpr List.mem_cons_self)
  | @requested r hr h =>
      refine .awaited ⟨r, ?_, hr⟩
      exact h.operations ▸ List.getElem?_concat_length

-- Storage answers the activation of a timeline, and no other explains its phase.
theorem Explained.answered (h : Explained t moves) {result : Except StorageError (List Item)}
    (hruns : ({} : Engine).Runs (moves ++ [.answer (.operation o) result]))
    (hphase : ((({} : Engine).replay moves).timeline t).phase = .activating)
    (hawaited : (({} : Engine).replay moves).Awaited t o) :
    ∀ o', ¬ Explains t (moves ++ [.answer (.operation o) result]) o' := by
  obtain ⟨hmoves, hallows, -⟩ := follows_append.mp hruns
  have hengaged := (isReached_replay hmoves).engaged
  intro o' hexplains
  rcases hexplains.before hruns with ⟨-, hbefore⟩ | ⟨-, hinactive, -⟩
  · obtain rfl := h.unique o' o hbefore (.underway (.awaited hawaited))
    cases hexplains with
    | underway h =>
        refine (conducts_after hallows).over hengaged (by simp [Move.settles]) hawaited ?_
        exact replay_concat {} moves _ ▸ h
    | abandoned h =>
        obtain ⟨-, hbefore | ⟨hm, -⟩⟩ := h.of_concat hruns
        · obtain ⟨r, hop, -⟩ := hawaited
          cases hop.symm.trans (hbefore.cancelled hmoves)
        · cases hm
  · cases hphase.symm.trans hinactive

theorem Explained.after (h : Explained t moves) (hruns : ({} : Engine).Runs (moves ++ [m])) :
    Explained t (moves ++ [m]) := by
  obtain ⟨hmoves, hallows, -⟩ := follows_append.mp hruns
  have hreached := isReached_replay hmoves
  have hconcat := replay_concat {} moves m
  have hturns := turns_after hreached hallows t
  have hearlier : ∀ o, Explains t (moves ++ [m]) o → _ := fun o h => h.before hruns
  rw [← hconcat] at hturns
  cases hturns with
  | begun hm hphase hg hphase' =>
      subst hm
      have hnew : ∀ o, Explains t (moves ++ [.startActivation t true]) o →
          o = (({} : Engine).replay moves).operations.length := by
        intro o hexplains
        rcases hearlier o hexplains with ⟨hsame, -⟩ | ⟨hlast, -⟩
        · exact absurd (hg.symm.trans hsame) (Nat.succ_ne_self _)
        · exact hlast
      exact ⟨fun _ => ⟨_, explains_begun hallows hphase⟩, fun _ _ => hphase',
        fun o o' ho ho' => (hnew o ho).trans (hnew o' ho').symm⟩
  | passed hg hphase' =>
      refine explained_of_none hphase' fun o hexplains => ?_
      rcases hearlier o hexplains with ⟨hsame, -⟩ | ⟨-, -, hphase⟩
      · exact Nat.ne_of_gt hg hsame
      · exact hphase' hphase
  | kept hg hepoch hphase =>
      have hbefore : ∀ o, Explains t (moves ++ [m]) o → Explains t moves o := by
        intro o hexplains
        rcases hearlier o hexplains with ⟨-, hbefore⟩ | ⟨-, hinactive, hactivating⟩
        · exact hbefore
        · cases hinactive.symm.trans (hphase.mp hactivating)
      refine ⟨fun hactivating => ?_, fun o ho => hphase.mpr (h.activating o (hbefore o ho)),
        fun o o' ho ho' => h.unique o o' (hbefore o ho) (hbefore o' ho')⟩
      obtain ⟨o, ho⟩ := h.held (hphase.mp hactivating)
      rcases ho.concat hruns hg with hstill | ⟨result, rfl, r, hop, hr⟩
      · exact ⟨o, hstill⟩
      · have ht := lt_of_active (show (_ : Timeline).phase.isActive = true by
          rw [hphase.mp hactivating]; rfl)
        exact absurd (hconcat ▸ hactivating) (phase_answered ht hop hr result)
  | @filled a result r hm hasks hr hphase hphase' hg hepoch =>
      subst hm
      obtain ⟨o, rfl, hop⟩ := activation_of_active hasks hphase (hconcat ▸ hphase')
      exact explained_of_none (by simp [hphase']) (h.answered hruns hphase ⟨r, hop, hr⟩)

theorem explained_replay (hruns : ({} : Engine).Runs moves) (t : TimelineId) :
    Explained t moves := by
  induction moves using List.reverseRecOn with
  | nil =>
      refine explained_of_none (fun hphase => by cases hphase) fun o h => ?_
      rcases h with (⟨r, hop, -⟩ | hattach) | ⟨before, later, hsplit, -⟩
      · cases hop
      · cases hattach
      · cases before <;> cases hsplit
  | append_singleton moves m ih => exact (ih (follows_append.mp hruns).1).after hruns

-- While no call is running, a timeline is activating exactly if an activation of its generation waits
-- for storage, or was dropped while it did, and there is only one such activation. So a timeline of
-- which one was dropped is left activating although nothing is awaited that would end it.
theorem activating_iff (hruns : ({} : Engine).Runs moves)
    (hrest : (({} : Engine).replay moves).stack = []) (t : TimelineId) :
    (((({} : Engine).replay moves).timeline t).phase = .activating ↔
      ∃ o, (({} : Engine).replay moves).Awaited t o ∨ Abandoned t o moves) ∧
    (∀ o o', (({} : Engine).replay moves).Awaited t o ∨ Abandoned t o moves →
      (({} : Engine).replay moves).Awaited t o' ∨ Abandoned t o' moves → o = o') ∧
    ∀ o, Abandoned t o moves → ∀ o', ¬ (({} : Engine).replay moves).Awaited t o' := by
  have h := explained_replay hruns t
  have hexplains : ∀ o, (({} : Engine).replay moves).Awaited t o ∨ Abandoned t o moves →
      Explains t moves o := fun o ho => ho.elim (fun ho => .underway (.awaited ho)) .abandoned
  refine ⟨⟨fun hphase => ?_, fun ⟨o, ho⟩ => h.activating o (hexplains o ho)⟩,
    fun o o' ho ho' => h.unique o o' (hexplains o ho) (hexplains o' ho'),
    fun o habandoned o' hawaited => ?_⟩
  · obtain ⟨o, hunderway | habandoned⟩ := h.held hphase
    · cases hunderway with
      | awaited hawaited => exact ⟨o, .inl hawaited⟩
      | attaching hattach =>
          rw [hrest] at hattach
          cases hattach
    · exact ⟨o, .inr habandoned⟩
  · obtain rfl := h.unique o o' (hexplains o (.inr habandoned)) (hexplains o' (.inl hawaited))
    obtain ⟨r, hop, -⟩ := hawaited
    cases hop.symm.trans (habandoned.cancelled hruns)

end

-- An activation waits for storage.
def activatingWaits : List Move :=
  [.addQuery .contradiction none, .addChannel 4, .addTimeline {} 0 0 (some 0) true,
    .startActivation 0 true, .step, .step]

theorem activating_iff_dropped :
    ((({} : Engine).replay activatingWaits).timeline 0).phase = .activating ∧
    ((({} : Engine).replay (activatingWaits ++ [.cancel 0])).timeline 0).phase = .activating ∧
    ∀ o, ¬ (({} : Engine).replay (activatingWaits ++ [.cancel 0])).Awaited 0 o := by
  have hruns : ({} : Engine).Runs activatingWaits := by decide
  have hruns' : ({} : Engine).Runs (activatingWaits ++ [.cancel 0]) := by decide
  have hrest : (({} : Engine).replay activatingWaits).stack = [] := List.isEmpty_iff.mp (by decide)
  have hrest' : (({} : Engine).replay (activatingWaits ++ [.cancel 0])).stack = [] :=
    List.isEmpty_iff.mp (by decide)
  have hawaited : (({} : Engine).replay activatingWaits).Awaited 0 0 :=
    ⟨{ text := Expr.contradiction.compile.queryText, before := none, limit := 200, generation := 1 },
      rfl, rfl⟩
  have hdropped : Abandoned 0 0 (activatingWaits ++ [.cancel 0]) :=
    ⟨activatingWaits, [], rfl, hawaited, rfl⟩
  exact ⟨(activating_iff hruns hrest 0).1.mpr ⟨0, .inl hawaited⟩,
    (activating_iff hruns' hrest' 0).1.mpr ⟨0, .inr hdropped⟩,
    (activating_iff hruns' hrest' 0).2.2 0 hdropped⟩

end FilteredFeed.Engine
