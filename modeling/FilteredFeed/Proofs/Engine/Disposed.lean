import FilteredFeed.Pattern.Builtin
import FilteredFeed.Proofs.Engine.Activations
import FilteredFeed.Proofs.Engine.Answers
import FilteredFeed.Proofs.Engine.Effects
import FilteredFeed.Proofs.Engine.Holders
import FilteredFeed.Proofs.Engine.Logged
import FilteredFeed.Proofs.Engine.Operations
import FilteredFeed.Proofs.Engine.Summons

namespace FilteredFeed.Engine

open FilteredFeed.Feed FilteredFeed.Filter FilteredFeed.Listener FilteredFeed.Timeline
open FilteredFeed.Scenario (Asker)

section

variable [Patterns]
variable {e e' : Engine} {t : TimelineId} {q : QueryId} {o : OperationId} {m : Move}
variable {T T' : Timeline} {r : FetchRequest} {moves : List Move} {delta : Delta}

-- A timeline without a query that has nothing and accepts nothing.
structure Spent (T : Timeline) : Prop where
  inactive : T.phase.isActive = false
  items : T.buffer.items = []
  unread : T.unread = 0
  query : T.query = none
  compiled : T.compiled = .contradiction
  revision : T.compiledRevision = none

theorem Spent.alike (h : Spent T) (halike : T.Alike T') : Spent T' := by
  obtain ⟨_, _, _, rfl⟩ := halike
  exact ⟨h.inactive, h.items, h.unread, h.query, h.compiled, h.revision⟩

-- A timeline was disposed. If it is no longer held, it may have been stopped since.
structure IsOver (e : Engine) (t : TimelineId) : Prop where
  reached : IsReached e
  known : t < e.timelines.length
  spent : Spent (e.timeline t)
  phase : e.isAlive (.timeline t) = true → (e.timeline t).phase = .disposed
  late : ∀ o r, e.asks (.operation o) = some (t, r) → r.generation < (e.timeline t).generation

-- What a move leaves of a timeline that is over. A call that ended it may have something to say yet.
structure Fades (e : Engine) (t : TimelineId) (m : Move) (T : Timeline) : Prop where
  spent : Spent T
  notified : T.notified = (e.timeline t).notified
  events : T.events = (e.timeline t).events ∨
    ∃ delta rest, m = .step ∧ e.stack = .emit t delta :: rest ∧
      T.events = ((e.timeline t).emit delta).events
  kept : (e.after m).isAlive (.timeline t) = true →
    T.phase = (e.timeline t).phase ∧ T.generation = (e.timeline t).generation

theorem fades_alike (h : Fades e t m T) (halike : T.Alike T') : Fades e t m T' := by
  refine ⟨h.spent.alike halike, halike.notified.trans h.notified, ?_, ?_⟩
  · rw [halike.events]
    exact h.events
  · rw [halike.phase, halike.generation]
    exact h.kept

theorem spent_restarted (h : Spent (e.timeline t)) : Spent (e.restarted t) where
  inactive := by
    rw [phase_restarted, h.inactive]
    exact h.inactive
  items := by simp
  unread := by simp
  query := by simp [h.query]
  compiled := by
    obtain ⟨events, hT⟩ := restarted_eq e t
    rw [hT]
    change (e.current t).1 = _
    unfold current
    rw [h.query]
  revision := by
    rw [compiledRevision_restarted, current_snd, h.query]
    rfl

theorem events_restarted_of_empty (h : (e.timeline t).buffer.items = []) :
    (e.restarted t).events = (e.timeline t).events := by
  unfold restarted
  rw [Buffer.clear_of_empty h]
  rfl

theorem notified_restarted (e : Engine) (t : TimelineId) :
    (e.restarted t).notified = (e.timeline t).notified := by
  obtain ⟨events, hT⟩ := restarted_eq e t
  rw [hT]
  rfl

-- A call that was on its way to a timeline that is over, and is no longer held, finds nothing to clear.
theorem IsOver.restarted (h : IsOver e t) (hgone : (e.after m).isAlive (.timeline t) = false) :
    Fades e t m (e.restarted t) where
  spent := spent_restarted h.spent
  notified := notified_restarted e t
  events := .inl (events_restarted_of_empty h.spent.items)
  kept halive := Bool.noConfusion (halive.symm.trans hgone)

theorem IsOver.becomes (h : IsOver e t) (hallows : e.allows m = true) (hT : Becomes e t m T) :
    Fades e t m T := by
  have hspent := h.spent
  have hawake (hactive : (e.timeline t).phase.isActive = true) : False :=
    Bool.noConfusion (hactive.symm.trans hspent.inactive)
  have hattached {q : QueryId} {purpose : Purpose} {rest : List Frame}
      (hs : e.stack = .attach t q (e.timeline t).epoch purpose :: rest) : False := by
    have hmem : .attach t q (e.timeline t).epoch purpose ∈ e.stack := hs ▸ List.mem_cons_self
    exact hawake (((h.reached.wired.bound t).attaching q _ purpose hmem).2 rfl).1
  have hended {b : Bool} (halive : (b && e.isAlive (.timeline t)) = true) :
      (e.timeline t).phase = .disposed := h.phase (Bool.and_eq_true_iff.mp halive).2
  induction hT with
  | kept => exact ⟨hspent, rfl, .inl rfl, fun _ => ⟨rfl, rfl⟩⟩
  | @dropped m T hT hdead ih =>
      obtain ⟨hspent', hnotified, hevents, -⟩ := ih hallows
      exact ⟨{ hspent' with inactive := rfl }, hnotified, hevents,
        fun halive => Bool.noConfusion (halive.symm.trans hdead)⟩
  | @told revision rest hs hheeds =>
      refine h.restarted (Bool.eq_false_iff.mpr fun halive => ?_)
      have hphase := h.phase (isAlive_after hallows h.known halive)
      simp [heeds, hphase] at hheeds
  | unmarked => exact ⟨{ hspent with }, rfl, .inl rfl, fun _ => ⟨rfl, rfl⟩⟩
  | enrolled hs | refreshed hs | refitted hs => exact (hattached hs).elim
  | @emitted delta rest hs =>
      obtain ⟨events, hT⟩ := emit_eq (e.timeline t) delta
      have hsaid : ((e.timeline t).emit delta).events = events := by rw [hT]
      rw [hT]
      exact ⟨{ hspent with }, rfl,
        .inr ⟨delta, rest, rfl, hs, hsaid.symm⟩, fun _ => ⟨rfl, rfl⟩⟩
  | stopped hactive | offered hm hactive => exact (hawake hactive).elim
  | invalidated hphase | ended hphase => exact absurd (hended hallows) hphase
  | requeried hphase =>
      exact absurd (hended (Bool.and_eq_true_iff.mp hallows).1) hphase
  | counted => exact ⟨{ hspent with unread := rfl }, rfl, .inl rfl, fun _ => ⟨rfl, rfl⟩⟩
  | launched hphase => cases hphase.symm.trans (hended hallows)
  | absorbed hawaits hasks hcurrent | failed hawaits hasks hcurrent
  | rolledBack hawaits hasks hcurrent =>
      exact (h.reached.unanswered hspent.inactive h.late hawaits hasks hcurrent).elim
  | made hnew => exact absurd h.known (hnew ▸ Nat.lt_irrefl _)

theorem IsOver.fades (h : IsOver e t) (hallows : e.allows m = true) :
    Fades e t m ((e.after m).timeline t) := by
  obtain ⟨T, hT, halike⟩ := leaves_after h.reached.wired hallows (lt_after h.known hallows)
  exact fades_alike (h.becomes hallows hT) halike

-- An operation that somebody begins for it ends at once.
theorem IsOver.refused (h : IsOver e t) (hallows : e.allows m = true)
    (hbegins : m.begins = some t) : ∃ kind result,
      (e.after m).operations = e.operations ++ [⟨t, kind, .done result⟩] := by
  have hclosed (kind : OperationKind) (result : Except TimelineError Outcome) :
      ((e.addOperation t kind).2.close e.operations.length (.done result)).operations =
        e.operations ++ [⟨t, kind, .done result⟩] :=
    ((aloof_begun e t kind _).trans (aloof_close ..)).operations
  cases m with
  | startActivation t' hasRuntime =>
      obtain rfl := Option.some.inj hbegins
      have hphase := h.phase (Bool.and_eq_true_iff.mp hallows).2
      rcases startActivation_cases e t' hasRuntime with ⟨hinactive, -⟩ | ⟨-, result, heq⟩
      · cases hphase.symm.trans hinactive
      · exact ⟨.activation, result, (congrArg operations heq).trans (hclosed ..)⟩
  | startPage t' before limit =>
      obtain rfl := Option.some.inj hbegins
      have hphase := h.phase (Bool.and_eq_true_iff.mp hallows).2
      obtain ⟨holders, hT⟩ : ∃ holders, (e.addOperation t' .page).2.timeline t' =
          { e.timeline t' with holders } :=
        timeline_retain { e with operations := e.operations ++ [⟨t', .page, .running⟩] } t' t'
      have hphase' : ((e.addOperation t' .page).2.timeline t').phase = .disposed := by
        rw [hT]
        exact hphase
      refine ⟨.page, .error .disposed, ?_⟩
      change (e.startPage t' before limit).2.operations = _
      unfold startPage
      dsimp only
      rw [if_pos hphase']
      exact hclosed ..
  | _ => cases hbegins

theorem IsOver.after (h : IsOver e t) (hallows : e.allows m = true) : IsOver (e.after m) t := by
  have hfades := h.fades hallows
  have hle := ((comes_after h.reached.sound h.reached.wired hallows).2 t).generation_le
  refine ⟨h.reached.after hallows, lt_after h.known hallows, hfades.spent, fun halive => ?_,
    fun o r hasks => ?_⟩
  · exact (hfades.kept halive).1.trans (h.phase (isAlive_after hallows h.known halive))
  · have hasked : e.asks (.operation o) = some (t, r) := by
      by_cases hbegins : m.begins = some t
      · obtain ⟨kind, result, hoperations⟩ := h.refused hallows hbegins
        obtain ⟨kind', hop⟩ := waiting_of_asks hasks
        rw [hoperations] at hop
        rcases before_or_begun hop with hold | ⟨-, hnew⟩
        · exact asks_of_waiting hold
        · cases hnew
      · exact (unasked_after h.reached.sound h.reached.wired hallows h.spent.inactive
          hbegins).asks o r hasks
    exact Nat.lt_of_lt_of_le (h.late o r hasked) hle

theorem phase_restarted_ne_disposed (h : (e.timeline t).phase ≠ .disposed) :
    (e.restarted t).phase ≠ .disposed := by
  rw [phase_restarted]
  split
  · decide
  · exact h

-- Only `dispose` disposes a timeline.
theorem Becomes.disposed (h : Becomes e t m T) (hw : Wired e) (hphase : T.phase = .disposed)
    (hbefore : (e.timeline t).phase ≠ .disposed) : m = .dispose t ∧ T = Engine.ended (e.timeline t) := by
  have hsame (h : (e.timeline t).phase = .disposed) {P : Prop} : P := absurd h hbefore
  cases h with
  | kept | unmarked | enrolled | counted => exact hsame hphase
  | dropped | stopped | rolledBack | launched | made => cases hphase
  | told | invalidated => exact absurd hphase (phase_restarted_ne_disposed hbefore)
  | @refreshed q rest hs hstale =>
      refine absurd hphase (phase_restarted_ne_disposed ?_)
      rwa [timeline_enrol_popped hw hs rfl]
  | @refitted q o rest hs hstale =>
      obtain ⟨events, hT⟩ := refitted_eq (({ e with stack := rest } : Engine).enrol t q) t
      rw [hT, timeline_enrol_popped hw hs rfl] at hphase
      exact hsame hphase
  | @emitted delta rest hs =>
      obtain ⟨events, hT⟩ := emit_eq (e.timeline t) delta
      rw [hT] at hphase
      exact hsame hphase
  | @requeried query hphase' hquery =>
      refine absurd hphase (phase_restarted_ne_disposed ?_)
      rcases timeline_leaveQuery_or e t query with hT | hT
      · rwa [hT]
      · rw [hT]
        exact hbefore
  | ended => exact ⟨rfl, rfl⟩
  | @offered m item T hm hactive hT =>
      rcases tested_cases hT with ⟨-, buffer, events, unread, notified, rfl⟩ |
        ⟨-, buffer, events, unread, notified, rfl⟩
      · exact hsame hphase
      · exact absurd hphase (phase_restarted_ne_disposed hbefore)
  | @absorbed a r items phase hawaits hasks hg hp =>
      obtain ⟨events, hT⟩ := absorb_eq ({ e.timeline t with phase } : Timeline) items
      rw [hT] at hphase
      rcases hp with rfl | rfl
      · exact hsame hphase
      · cases hphase
  | failed hawaits hasks hg hp =>
      rcases hp with rfl | rfl
      · exact hsame hphase
      · cases hphase

theorem isOver_ended (hreached : IsReached e) (hallows : e.allows (.dispose t) = true)
    (halike : (ended (e.timeline t)).Alike ((e.after (.dispose t)).timeline t)) :
    IsOver (e.after (.dispose t)) t := by
  have hspent : Spent (ended (e.timeline t)) := ⟨rfl, Buffer.items_clear _, rfl, rfl, rfl, rfl⟩
  refine ⟨hreached.after hallows, lt_after (isAlive_of_allows hallows) hallows,
    hspent.alike halike, fun _ => halike.phase, fun o r hasks => ?_⟩
  have hasked := ((unasked_hold e t).trans (unasked_dispose _ t)).asks o r hasks
  rw [halike.generation]
  exact Nat.lt_succ_of_le (hreached.sound.earlier (.operation o) t r hasked)

theorem isOver_replay (hruns : ({} : Engine).Runs moves)
    (hphase : ((({} : Engine).replay moves).timeline t).phase = .disposed) :
    IsOver (({} : Engine).replay moves) t := by
  induction moves using List.reverseRecOn with
  | nil => cases hphase
  | append_singleton moves m ih =>
      obtain ⟨hmoves, hallows, -⟩ := follows_append.mp hruns
      have hreached := isReached_replay hmoves
      rw [replay_concat] at hphase ⊢
      by_cases hbefore : ((({} : Engine).replay moves).timeline t).phase = .disposed
      · exact (ih hmoves hbefore).after hallows
      · have ht : t < ((({} : Engine).replay moves).after m).timelines.length := by
          refine Nat.lt_of_not_le fun hle => ?_
          rw [timeline_of_le hle] at hphase
          cases hphase
        obtain ⟨T, hT, halike⟩ := leaves_after hreached.wired hallows ht
        obtain ⟨rfl, rfl⟩ := hT.disposed hreached.wired (halike.phase.symm.trans hphase) hbefore
        exact isOver_ended hreached hallows halike

-- A timeline that is disposed already is only held for as long as the call takes.
theorem dispose_disposed (hphase : (e.timeline t).phase = .disposed) :
    e.after (.dispose t) = e.hold t := by
  have hheld : ((e.hold t).timeline t).phase = .disposed := (alike_hold e t t).phase.trans hphase
  change (e.hold t).dispose t = _
  rw [dispose_eq, if_pos hheld]

theorem phase_dispose (hallows : e.allows (.dispose t) = true) :
    ((e.after (.dispose t)).timeline t).phase = .disposed := by
  by_cases hphase : (e.timeline t).phase = .disposed
  · rw [dispose_disposed hphase]
    exact (alike_hold e t t).phase.trans hphase
  · exact (alike_dispose (isAlive_of_allows hallows) hphase).phase

-- What a timeline that is over has still to say was to be said before.
theorem IsOver.owed (h : IsOver e t) (hallows : e.allows m = true) :
    (∃ delta rest, m = .step ∧ e.stack = .emit t delta :: rest ∧
      e.owed t = delta :: (e.after m).owed t) ∨
    (e.after m).owed t = e.owed t ∧
      ∀ delta rest, m = .step → e.stack ≠ .emit t delta :: rest := by
  by_cases hend : m.ends = some t
  · cases m with
    | dispose t' =>
        obtain rfl := Option.some.inj hend
        have hphase := h.phase (Bool.and_eq_true_iff.mp hallows).2
        rw [dispose_disposed hphase]
        exact .inr ⟨(modest_hold e t').owed (d := none) (by simp), by simp⟩
    | _ => cases hend
  · exact owed_after hallows hend

-- The events of a timeline that says what happened to its buffer.
def tell (events : List Event) (delta : Delta) : List Event :=
  if delta.isEmpty then events else .bufferChanged delta :: events

theorem events_emit (T : Timeline) (delta : Delta) : (T.emit delta).events = tell T.events delta := by
  unfold Timeline.emit tell
  split <;> rfl

theorem timeline_said (ht : t < e.timelines.length) {rest : List Frame}
    (hs : e.stack = .emit t delta :: rest) :
    (e.after .step).timeline t = (e.timeline t).emit delta := by
  have hafter : e.after .step = ({ e with stack := rest } : Engine).emit t delta := by
    simp [Engine.after, step, hs, perform]
  rw [hafter]
  exact timeline_modifyTimeline_self ht _

-- What a run leaves of a timeline that is over.
structure Faded (e : Engine) (t : TimelineId) (e' : Engine) : Prop where
  isOver : IsOver e' t
  notified : (e'.timeline t).notified = (e.timeline t).notified
  kept : e'.isAlive (.timeline t) = true →
    (e'.timeline t).phase = (e.timeline t).phase ∧
      (e'.timeline t).generation = (e.timeline t).generation
  said : ∃ said, e.owed t = said ++ e'.owed t ∧
    (e'.timeline t).events = said.foldl tell (e.timeline t).events

theorem IsOver.faded (h : IsOver e t) (hallows : e.allows m = true) : Faded e t (e.after m) := by
  have hfades := h.fades hallows
  refine ⟨h.after hallows, hfades.notified, hfades.kept, ?_⟩
  rcases h.owed hallows with ⟨delta, rest, rfl, hs, howed⟩ | ⟨howed, hnone⟩
  · refine ⟨[delta], howed, ?_⟩
    rw [timeline_said h.known hs]
    exact events_emit ..
  · rcases hfades.events with hevents | ⟨delta, rest, hm, hs, -⟩
    · exact ⟨[], howed.symm, hevents⟩
    · exact absurd hs (hnone delta rest hm)

theorem IsOver.replay (h : IsOver e t) (hruns : e.Runs moves) : Faded e t (e.replay moves) := by
  induction moves generalizing e with
  | nil => exact ⟨h, rfl, fun _ => ⟨rfl, rfl⟩, [], rfl, rfl⟩
  | cons m moves ih =>
      obtain ⟨hallows, -, hlater⟩ := hruns
      have hfirst := h.faded hallows
      have hrest := ih hfirst.isOver hlater
      refine ⟨hrest.isOver, hrest.notified.trans hfirst.notified, fun halive => ?_, ?_⟩
      · have halive' := isAlive_replay hlater hfirst.isOver.known halive
        exact ⟨(hrest.kept halive).1.trans (hfirst.kept halive').1,
          (hrest.kept halive).2.trans (hfirst.kept halive').2⟩
      · obtain ⟨said, howed, hevents⟩ := hfirst.said
        obtain ⟨said', howed', hevents'⟩ := hrest.said
        refine ⟨said ++ said', ?_, ?_⟩
        · rw [howed, howed', List.append_assoc]
          rfl
        · rw [List.foldl_append, ← hevents]
          exact hevents'

-- A call has returned when the stack is no higher than it was before. What a timeline has to say then
-- was to be said before the call.
theorem IsOver.returned (h : IsOver e t) {base : List Frame}
    (hbase : (∃ frames, e.stack = frames ++ base) ∨ e.owed t <:+ base.filterMap (Frame.owed t))
    (hruns : e.Runs moves) (hlow : (e.replay moves).stack.length ≤ base.length) :
    (e.replay moves).owed t <:+ base.filterMap (Frame.owed t) := by
  induction moves generalizing e with
  | nil =>
      rcases hbase with ⟨frames, hs⟩ | howed
      · have hnone : frames = [] := by
          rw [replay_nil, hs, List.length_append] at hlow
          exact List.length_eq_zero_iff.mp (by omega)
        rw [hnone] at hs
        exact (congrArg (List.filterMap (Frame.owed t)) hs) ▸ List.suffix_rfl
      · exact howed
  | cons m moves ih =>
      obtain ⟨hallows, -, hlater⟩ := hruns
      refine ih (h.after hallows) ?_ hlater hlow
      have hfewer : (e.after m).owed t <:+ e.owed t := by
        rcases h.owed hallows with ⟨delta, rest, -, -, howed⟩ | ⟨howed, -⟩
        · exact ⟨[delta], howed.symm⟩
        · exact howed ▸ List.suffix_rfl
      rcases hbase with ⟨frames, hs⟩ | howed
      · obtain ⟨new, hpushed | hpopped⟩ := stack_after hallows
        · exact .inl ⟨new ++ frames, by rw [hpushed, hs, List.append_assoc]⟩
        · cases frames with
          | nil =>
              refine .inr (hfewer.trans ?_)
              exact (congrArg (List.filterMap (Frame.owed t)) hs) ▸ List.suffix_rfl
          | cons f frames =>
              refine .inl ⟨new ++ frames, ?_⟩
              rw [hpopped, hs, List.append_assoc]
              rfl
      · exact .inr (hfewer.trans howed)

theorem IsOver.subscription (h : IsOver e t) :
    (e.timeline t).subscription = none ∧ (e.timeline t).activated = none := by
  have hnone : (e.timeline t).subscription = none := by
    cases hsub : (e.timeline t).subscription with
    | none => rfl
    | some s =>
        obtain ⟨q, id⟩ := s
        have hactive := ((h.reached.wired.bound t).subscribed q id hsub).1
        exact Bool.noConfusion (hactive.symm.trans h.spent.inactive)
  refine ⟨hnone, ?_⟩
  rw [h.reached.accounted.paired, hnone]
  rfl

-- An answer that an operation has waited for comes too late.
theorem IsOver.answered (h : IsOver e t) {kind : OperationKind}
    (hop : e.operations[o]? = some ⟨t, kind, .waiting r⟩) (result : Except StorageError (List Item)) :
    (e.after (.answer (.operation o) result)).operations[o]? =
      some ⟨t, kind, .done (lateResult kind result)⟩ := by
  have hlate : r.generation ≠ (e.timeline t).generation :=
    Nat.ne_of_lt (h.late o r (asks_of_waiting hop))
  obtain ⟨kind', hkind, hends⟩ := answer_of_late (asks_of_waiting hop) hlate result
  obtain rfl : kind = kind' := by simpa [hop] using hkind
  change (e.answer result (.operation o)).operations[o]? = _
  rw [hends, (aloof_close e o _).operations]
  exact getElem?_setStatus_self hop _

theorem release_retain (halive : e.isAlive (.timeline t) = true) :
    (e.retain (.timeline t)).release (.timeline t) = e := by
  have hholders : 2 ≤ ((e.retain (.timeline t)).timeline t).holders := by
    have hT : (e.retain (.timeline t)).timeline t = _ :=
      timeline_modifyTimeline_self (isAlive_lt halive) _
    rw [hT]
    exact Nat.succ_le_succ (holders_pos halive)
  rw [release_eq_dropHold hholders]
  change (e.modifyTimeline t _).modifyTimeline t _ = e
  rw [modifyTimeline_modifyTimeline, modifyTimeline,
    show (fun T : Timeline => { T with holders := T.holders - 1 }) ∘
      (fun T : Timeline => { T with holders := T.holders + 1 }) = id from rfl, List.modify_id]

-- To dispose a timeline once more is to hold it and to let it go again.
theorem IsOver.disposed (h : IsOver e t) (hallows : e.allows (.dispose t) = true) :
    (e.after (.dispose t)).allows .step = true ∧ (e.after (.dispose t)).after .step = e := by
  have halive := (Bool.and_eq_true_iff.mp hallows).2
  rw [dispose_disposed (h.phase halive)]
  exact ⟨rfl, release_retain halive⟩

-- After a call that disposes a timeline has returned, nothing happens to the timeline any more, whatever
-- is done: what it has said and whom it has told stays, as do its generation and its phase for as long
-- as somebody holds it. It has no query, no items, no subscription and no activation. Answers that are
-- under way end the operations that wait for them, and disposing it once more has no effect. Only other
-- calls which were disposing it when the call was made may still say what they had to say.
theorem disposed_for_good {before during later : List Move}
    (hruns : ({} : Engine).Runs (before ++ .dispose t :: (during ++ later)))
    (hreturned : (({} : Engine).replay (before ++ .dispose t :: during)).stack.length ≤
      (({} : Engine).replay before).stack.length) :
    let e := ({} : Engine).replay (before ++ .dispose t :: during)
    let e' := ({} : Engine).replay (before ++ .dispose t :: (during ++ later))
    let T := e.timeline t
    let T' := e'.timeline t
    (e'.isAlive (.timeline t) = true → T'.phase = .disposed ∧ T'.generation = T.generation) ∧
    Spent T' ∧ T'.notified = T.notified ∧
    (∃ said, said <:+: (({} : Engine).replay before).owed t ∧ T'.events = said.foldl tell T.events) ∧
    (T'.subscription = none ∧ T'.activated = none ∧
      ∀ q id, (id, .timeline t) ∉ e'.subscriptions q) ∧
    (∀ q, Solvent q (before ++ .dispose t :: (during ++ later)) → e'.stack = [] →
      (e'.query q).activations =
        outstanding q (before ++ .dispose t :: (during ++ later)) + e'.users q) ∧
    (∀ (o : OperationId) kind r result, e'.operations[o]? = some ⟨t, kind, .waiting r⟩ →
      (e'.after (.answer (.operation o) result)).operations[o]? =
        some ⟨t, kind, .done (lateResult kind result)⟩) ∧
    (e'.allows (.dispose t) = true →
      (e'.after (.dispose t)).allows .step = true ∧ (e'.after (.dispose t)).after .step = e') := by
  intro e e' T T'
  obtain ⟨hbefore, hallows, -, hafter⟩ := follows_append.mp hruns
  obtain ⟨hduring, hlater⟩ := follows_append.mp hafter
  have hcall : ({} : Engine).Runs (before ++ [.dispose t]) :=
    follows_append.mpr ⟨hbefore, hallows, trivial, trivial⟩
  have hover : IsOver ((({} : Engine).replay before).after (.dispose t)) t := by
    have hphase := phase_dispose hallows
    rw [← replay_concat] at hphase ⊢
    exact isOver_replay hcall hphase
  have he : e = ((({} : Engine).replay before).after (.dispose t)).replay during := by
    rw [← replay_cons, ← replay_append]
  have he' : e' = e.replay later := by
    rw [he, ← replay_append, ← replay_cons, ← replay_append]
  have hpushed : ∃ frames, ((({} : Engine).replay before).after (.dispose t)).stack =
      frames ++ (({} : Engine).replay before).stack := by
    obtain ⟨frames, hs, -⟩ := (modest_after (m := .dispose t) rfl).stack
    exact ⟨frames, hs⟩
  have howed : e.owed t <:+ (({} : Engine).replay before).owed t :=
    he ▸ hover.returned (.inl hpushed) hduring (he ▸ hreturned)
  have hoverNow : IsOver e t := he ▸ (hover.replay hduring).isOver
  have hfaded : Faded e t e' := he' ▸ hoverNow.replay (he ▸ hlater)
  obtain ⟨hover', hnotified, hkept, said, hsaid, hevents⟩ := hfaded
  refine ⟨fun halive => ⟨hover'.phase halive, (hkept halive).2⟩, hover'.spent, hnotified,
    ⟨said, ?_, hevents⟩, ⟨hover'.subscription.1, hover'.subscription.2,
      hover'.reached.unsubscribed hover'.spent.inactive⟩, fun q hsolvent hrest => ?_,
    fun o kind r result hop => hover'.answered hop result, fun hallows' => hover'.disposed hallows'⟩
  · exact (hsaid ▸ List.prefix_append said _).isInfix.trans howed.isInfix
  · exact activations_eq_users hruns hsolvent hrest

end

-- A timeline has an item, and asks for older ones.
def filledAndAsking : List Move :=
  [.addQuery (.not .contradiction) none, .addChannel 4, .addTimeline {} 0 0 (some 0) true,
    .startActivation 0 true, .step, .step, .answer (.operation 0) (.ok [{ id := 2, author := "a" }]),
    .startPage 0 (some 2) 10]

-- All that is done to it after that is in vain.
def usedAgain : List Move :=
  [.invalidate 0, .step, .setQuery 0 none, .step, .offer 0 { id := 3, author := "a" },
    .startActivation 0 true]

theorem disposed_for_good_usedAgain :
    ({} : Engine).Runs (filledAndAsking ++ .dispose 0 :: ([.step, .step, .step] ++ usedAgain)) ∧
    (({} : Engine).replay (filledAndAsking ++ .dispose 0 :: [.step, .step, .step])).stack.length ≤
      (({} : Engine).replay filledAndAsking).stack.length ∧
    ((({} : Engine).replay (filledAndAsking ++
      .dispose 0 :: ([.step, .step, .step] ++ usedAgain))).timeline 0).phase = .disposed ∧
    ((({} : Engine).replay (filledAndAsking ++
      .dispose 0 :: ([.step, .step, .step] ++ usedAgain))).timeline 0).buffer.items = [] ∧
    ∀ result, ∃ kind, ((({} : Engine).replay (filledAndAsking ++
      .dispose 0 :: ([.step, .step, .step] ++ usedAgain))).after
        (.answer (.operation 1) result)).operations[1]? =
          some ⟨0, kind, .done (lateResult kind result)⟩ := by
  have hruns : ({} : Engine).Runs
      (filledAndAsking ++ .dispose 0 :: ([.step, .step, .step] ++ usedAgain)) := by decide
  have hreturned : (({} : Engine).replay (filledAndAsking ++
      .dispose 0 :: [.step, .step, .step])).stack.length ≤
        (({} : Engine).replay filledAndAsking).stack.length := by decide
  obtain ⟨hphase, hspent, -, -, -, -, hanswered, -⟩ := disposed_for_good hruns hreturned
  refine ⟨hruns, hreturned, (hphase (by decide)).1, hspent.items, fun result => ⟨.page, ?_⟩⟩
  exact hanswered 1 .page
    { text := (Expr.not .contradiction).compile.queryText, before := some 2, limit := 10,
      generation := 1 } result (by rfl)

-- While a call disposes a timeline, an observer of the query that the timeline gives up has control.
def disposingWatched : List Move :=
  [.addQuery (.not .contradiction) none, .addChannel 4, .addTimeline {} 0 0 (some 0) true,
    .startActivation 0 true, .step, .step, .answer (.operation 0) (.ok [{ id := 2, author := "a" }]),
    .listen 0, .dispose 0, .step, .step, .step, .step]

-- If the observer disposes the timeline too, this call returns first, and the other one says after
-- that what it has cleared.
theorem disposed_twice_says_more :
    ({} : Engine).Runs
      (disposingWatched ++ .dispose 0 :: ([.step] ++ [.leaveObserver, .step, .step, .step])) ∧
    (({} : Engine).replay (disposingWatched ++ .dispose 0 :: [.step])).stack.length ≤
      (({} : Engine).replay disposingWatched).stack.length ∧
    ((({} : Engine).replay (disposingWatched ++
      .dispose 0 :: ([.step] ++ [.leaveObserver, .step, .step, .step]))).timeline 0).events =
        .bufferChanged { cleared := true } ::
          ((({} : Engine).replay (disposingWatched ++ .dispose 0 :: [.step])).timeline 0).events := by
  refine ⟨by decide, by decide, by decide⟩

end FilteredFeed.Engine
