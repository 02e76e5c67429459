import FilteredFeed.Proofs.Engine.Incidents

namespace FilteredFeed.Engine

open FilteredFeed.Feed FilteredFeed.Filter FilteredFeed.Listener FilteredFeed.Timeline
open FilteredFeed.Scenario (Asker)

variable [Patterns]
variable {e e' e'' : Engine} {t : TimelineId} {a : Asker} {r : FetchRequest} {m : Move}

-- What is asked anew is asked under the generation its timeline has.
def Fresh (e e' : Engine) : Prop :=
  ∀ a t r, e'.asks a = some (t, r) →
    e.asks a = some (t, r) ∨ r.generation = (e'.timeline t).generation

theorem Changes.fresh {arrives : TimelineId → Item → Prop} (h : Changes arrives e e') :
    Fresh e e' := by
  intro a t r hr
  rcases h.asks a t r hr with hr | ⟨hcurrent, -, -⟩
  · exact .inl hr
  · exact .inr hcurrent.1

theorem Fresh.after_silence (h : ∀ a t r, e'.asks a = some (t, r) → e.asks a = some (t, r))
    (h' : Fresh e' e'') : Fresh e e'' := by
  intro a t r hr
  rcases h' a t r hr with hr | hg
  · exact .inl (h a t r hr)
  · exact .inr hg

theorem fresh_prepare {o : OperationId} (ho : e.owner o = some t) (generation : Nat) :
    Fresh e (e.prepare t o generation) := by
  rw [prepare_eq]
  split
  · exact (calm_push e rfl : Calm Nothing _ _).changes.fresh
  · rename_i hg
    have hw := within_prepared e t
    intro a t' r hr
    rcases asks_setStatus hr with hr | ⟨ho', rfl⟩
    · rw [asks_congr hw.operations (jobs_prepared e t)] at hr
      exact .inl hr
    · rw [owner_congr hw.operations, ho] at ho'
      obtain rfl := Option.some.inj ho'
      exact .inr ((Decidable.not_not.mp hg).symm.trans (generation_prepared e t t).symm)

theorem fresh_step (hs : Sound e) (hallows : e.allows .step = true) :
    Fresh e (e.after .step) := by
  obtain ⟨frame, rest, hstack, -, hafter⟩ := after_step hallows
  rw [hafter]
  cases hactivation : frame.isActivation with
  | false => exact (changes_perform Nothing ({ e with stack := rest }) hactivation).fresh
  | true =>
      obtain ⟨t, q, epoch, o, generation, rfl⟩ := Frame.attach_of_isActivation hactivation
      have hmem : .attach t q epoch (.activation o generation) ∈ e.stack := by
        rw [hstack]
        exact List.mem_cons_self
      have ho := (hs.window t q epoch o generation hmem).1
      have hc := calm_enrol Nothing ({ e with stack := rest } : Engine) t q
      change Fresh e
        (({ e with stack := rest } : Engine).attach t q epoch (.activation o generation))
      rw [attach_eq]
      split
      · exact (calm_push _ rfl : Calm Nothing { e with stack := rest } _).changes.fresh
      · exact (fresh_prepare (hc.owner o t ho) generation).after_silence hc.asks

theorem fresh_startActivation (e : Engine) (t : TimelineId) (hasRuntime : Bool) :
    Fresh e (e.startActivation t hasRuntime).2 := by
  have hc := calm_addOperation Nothing e t .activation
  have ho := owner_addOperation e t .activation
  rcases startActivation_cases e t hasRuntime with ⟨-, -, heq⟩ | ⟨-, result, heq⟩
  · have hl := changes_launch Nothing (e.addOperation t .activation).2 t
    rw [heq]
    refine Fresh.after_silence hc.asks ?_
    unfold launched
    split
    · exact hl.fresh
    · refine Fresh.after_silence (fun a t' r => asks_launch _ t) ?_
      exact fresh_prepare (hl.owner _ t ho) _
  · rw [heq]
    have hclosed := changes_close Nothing (e.addOperation t .activation).2 e.operations.length
      fun request => (nofun : Status.done result ≠ .waiting request)
    exact (hc.trans_changes hclosed).fresh

theorem fresh_startPage (e : Engine) (t : TimelineId) (before : Option ItemId) (limit : Nat) :
    Fresh e (e.startPage t before limit).2 := by
  have hc := calm_addOperation Nothing e t .page
  have ho := owner_addOperation e t .page
  unfold startPage
  dsimp only
  split
  · have hclosed := changes_close Nothing (e.addOperation t .page).2 e.operations.length
      fun request => (nofun : Status.done (.error .disposed) ≠ .waiting request)
    exact (hc.trans_changes hclosed).fresh
  · refine Fresh.after_silence hc.asks ?_
    intro a t' r hr
    rcases asks_setStatus hr with hr | ⟨ho', rfl⟩
    · exact .inl hr
    · obtain rfl := Option.some.inj (ho.symm.trans ho')
      exact .inr rfl

theorem fresh_after (hs : Sound e) (hallows : e.allows m = true) : Fresh e (e.after m) := by
  cases hplain : m.isPlain with
  | true => exact (changes_after hallows hplain).fresh
  | false =>
      cases Move.special hplain with
      | step => exact fresh_step hs hallows
      | leaveObserver =>
          change Fresh e e.leaveObserver
          unfold leaveObserver
          split <;> exact fun a t r => .inl
      | addTimeline config storage stream query hasSink =>
          intro a t r hr
          have hsame : (e.after (.addTimeline config storage stream query hasSink)).asks a =
              e.asks a :=
            asks_congr (within_recompile _ _).operations (jobs_recompile _ _) a
          exact .inl (hsame ▸ hr)
      | startActivation t hasRuntime => exact fresh_startActivation e t hasRuntime
      | startPage t before limit => exact fresh_startPage e t before limit

-- How long a request is waited for.

-- A request is there from the start of a run to its end.
def Asked (a : Asker) (t : TimelineId) (r : FetchRequest) : Engine → List Move → Prop
  | e, [] => e.asks a = some (t, r)
  | e, m :: moves => e.asks a = some (t, r) ∧ Asked a t r (e.after m) moves

theorem Asked.now {moves : List Move} (h : Asked a t r e moves) : e.asks a = some (t, r) := by
  cases moves with
  | nil => exact h
  | cons m moves => exact h.1

-- One move of a run has made a request, which is there ever since.
structure MadeBy (e : Engine) (a : Asker) (t : TimelineId) (r : FetchRequest)
    (before : List Move) (start : Move) (during : List Move) : Prop where
  unasked : (e.replay before).asks a ≠ some (t, r)
  asked : Asked a t r (e.replay (before ++ [start])) during

-- A request that is there after a run was there before the run, or the run has made it.
theorem asked_or_made {moves : List Move} (h : (e.replay moves).asks a = some (t, r)) :
    Asked a t r e moves ∨
      ∃ before start during, moves = before ++ start :: during ∧
        MadeBy e a t r before start during := by
  induction moves generalizing e with
  | nil => exact .inl h
  | cons m moves ih =>
      rcases ih h with hasked | ⟨before, start, during, rfl, hmade⟩
      · by_cases hnow : e.asks a = some (t, r)
        · exact .inl ⟨hnow, hasked⟩
        · exact .inr ⟨[], m, moves, rfl, hnow, hasked⟩
      · exact .inr ⟨m :: before, start, during, rfl, hmade.unasked, hmade.asked⟩

omit [Patterns] in
theorem incident_of_when {b : Bool} {incident incident' : Incident}
    (h : when b incident = some incident') : b = true ∧ incident = incident' := by
  cases b with
  | true => exact ⟨rfl, Option.some.inj h⟩
  | false => cases h

-- An activation that finds its query changed is of the generation of its timeline.
theorem attach_of_cleared (h : e.incident? t m = some .cleared) :
    ∃ q epoch o, .attach t q epoch (.activation o (e.timeline t).generation) ∈ e.stack := by
  cases m with
  | step =>
      unfold incident? at h
      cases hs : e.stack with
      | nil => simp [hs] at h
      | cons frame rest =>
          have h : e.frameIncident? t frame = some .cleared := by simpa [hs] using h
          unfold frameIncident? at h
          split at h
          · cases (incident_of_when h).2
          · cases (incident_of_when h).2
          · cases (incident_of_when h).2
          · cases (incident_of_when h).2
          · rename_i t' q epoch o generation
            have hcond := (incident_of_when h).1
            simp only [Bool.and_eq_true, beq_iff_eq] at hcond
            obtain ⟨⟨⟨rfl, -⟩, hg⟩, -⟩ := hcond
            exact ⟨q, epoch, o, by simp [hg]⟩
          · cases h
  | answer asker result =>
      cases asker with
      | task k => cases h
      | operation o =>
          unfold incident? answerIncident? at h
          dsimp only at h
          split at h
          · cases (incident_of_when h).2
          · cases h
  | turn k =>
      unfold incident? pumpIncident? at h
      dsimp only at h
      split at h
      · split at h
        · cases (incident_of_when h).2
        · cases h
      · cases h
  | drop | deactivate | invalidate | dispose | setQuery | offer | startActivation | cancel =>
      cases (incident_of_when h).2
  | leaveObserver | addQuery | addChannel | addTimeline | setExpression | setSource
  | activateQuery | deactivateQuery | compile | listen | unsubscribe | releaseObserver | retain
  | accepts | takeUnread | publish | closeStream | startPage | wake | nextTask => cases h

-- A request stays of the generation of its timeline as long as nothing happens to the timeline. An
-- activation that empties the buffer under its generation has no request of that generation to
-- fear, by what holds of the time before its attachment.
theorem generation_after (hs : Sound e) (hallows : e.allows m = true)
    (h : e.asks a = some (t, r)) :
    r.generation = ((e.after m).timeline t).generation ↔
      r.generation = (e.timeline t).generation ∧ e.incident? t m = none := by
  have hraise := raises_after (hs.ranged a t r h) hallows
  have hle := hs.earlier a t r h
  unfold Raises at hraise
  cases hi : e.incident? t m with
  | none =>
      rw [hi] at hraise
      simp [hraise, Incident.raise]
  | some incident =>
      have hlater : r.generation < ((e.after m).timeline t).generation := by
        cases incident with
        | cleared =>
            obtain ⟨q, epoch, o, hmem⟩ := attach_of_cleared hi
            have hwindow := (hs.window t q epoch o _ hmem).2.2.2 rfl a r h
            rw [hi] at hraise
            rw [hraise]
            exact hwindow
        | invalidated | requeried | deactivated | activated | disposed =>
            rw [hraise, hi]
            exact Nat.lt_succ_of_le hle
      simp [Nat.ne_of_lt hlater]

-- The same for a whole run.
theorem generation_replay (hs : Sound e) {moves : List Move} (hruns : e.Runs moves)
    (h : Asked a t r e moves) :
    r.generation = ((e.replay moves).timeline t).generation ↔
      r.generation = (e.timeline t).generation ∧ incidents t e moves = [] := by
  induction moves generalizing e with
  | nil => simp [incidents]
  | cons m moves ih =>
      have hrest := ih (hs.after hruns.1) hruns.2.2 h.2
      have hfirst := generation_after hs hruns.1 h.1
      rw [replay_cons, hrest, hfirst]
      cases hi : e.incident? t m <;> simp [incidents, hi]

theorem asks_init : ({} : Engine).asks a ≠ some (t, r) := by
  cases a <;> simp [asks, jobs]

-- Every request of a run was made by one of its moves, under the generation its timeline had. It
-- is of the generation that the timeline has by now exactly if nothing has happened to the
-- timeline since.
theorem made_of_asks {moves : List Move} (hruns : ({} : Engine).Runs moves)
    (h : (({} : Engine).replay moves).asks a = some (t, r)) :
    ∃ before start during, moves = before ++ start :: during ∧
      MadeBy {} a t r before start during ∧
      (r.generation = ((({} : Engine).replay moves).timeline t).generation ↔
        incidents t (({} : Engine).replay (before ++ [start])) during = []) := by
  rcases asked_or_made h with hasked | ⟨before, start, during, rfl, hmade⟩
  · exact absurd hasked.now asks_init
  · refine ⟨before, start, during, rfl, hmade, ?_⟩
    obtain ⟨hbefore, hallows, -, hduring⟩ := follows_append.mp hruns
    have hsound := hbefore.sound sound_init
    have hasked := hmade.asked
    rw [replay_concat] at hasked
    have hstart : r.generation =
        (((({} : Engine).replay before).after start).timeline t).generation := by
      rcases fresh_after hsound hallows a t r hasked.now with hold | hg
      · exact absurd hold hmade.unasked
      · exact hg
    have hiff := generation_replay (hsound.after hallows) hduring hasked
    rw [replay_append, replay_cons, replay_concat, hiff]
    simp [hstart]

-- What an answer does.

-- An answer ends what has asked for it, and does nothing else.
def EndsOnly (e : Engine) (result : Except StorageError (List Item)) : Asker → Prop
  | .operation o => ∃ kind, e.operations[o]?.map Operation.kind = some kind ∧
      e.answer result (.operation o) = e.close o (.done (lateResult kind result))
  | .task k => e.answer result (.task k) = e.finishTask k

-- Whether nobody but an operation holds its timeline, which is taken down when the operation ends.
def isLastUse (e : Engine) (t : TimelineId) : Asker → Bool
  | .operation _ => e.isLastHold t
  | .task _ => false

-- A timeline keeps its items, the number of unread ones, and the events it has emitted.
structure SameItems (T T' : Timeline) : Prop where
  buffer : T'.buffer = T.buffer
  unread : T'.unread = T.unread
  events : T'.events = T.events

-- It also keeps its phase and its subscription.
structure SameView (T T' : Timeline) : Prop extends SameItems T T' where
  phase : T'.phase = T.phase
  subscription : T'.subscription = T.subscription

-- An operation that has ended does not hold its timeline any more. A task never holds one.
def letGo (e : Engine) (t : TimelineId) : Asker → Engine
  | .operation _ => e.release (.timeline t)
  | .task _ => e

-- An answer has no effect on any timeline, but that its operation lets the timeline go.
structure Ignored (e : Engine) (a : Asker) (t : TimelineId)
    (result : Except StorageError (List Item)) : Prop where
  ends : e.EndsOnly result a
  kept : ∃ e' : Engine, (∀ t', SameView (e.timeline t') (e'.timeline t')) ∧
    e.answer result a = e'.letGo t a
  items : ∀ t', SameItems (e.timeline t') ((e.answer result a).timeline t')
  view : e.isLastUse t a = false →
    ∀ t', SameView (e.timeline t') ((e.answer result a).timeline t')

theorem SameView.refl (T : Timeline) : SameView T T := ⟨⟨rfl, rfl, rfl⟩, rfl, rfl⟩

theorem view_dropHold (e : Engine) (t t' : TimelineId) :
    SameView (e.timeline t') ((e.dropHold t).timeline t') := by
  rw [timeline_dropHold]
  exact ⟨⟨rfl, rfl, rfl⟩, rfl, rfl⟩

theorem items_teardown (e : Engine) (t t' : TimelineId) :
    SameItems (e.timeline t') ((e.teardown t).2.timeline t') := by
  rw [teardown_eq, ← timeline_endWork e t t']
  rcases timeline_modifyTimeline (e.endWork t) t t' stopped with h | ⟨rfl, h⟩
  · exact h ▸ (SameView.refl _).toSameItems
  · exact h ▸ ⟨rfl, rfl, rfl⟩

theorem items_release (e : Engine) (t t' : TimelineId) :
    SameItems (e.timeline t') ((e.release (.timeline t)).timeline t') := by
  have hdrop := (view_dropHold e t t').toSameItems
  rw [release_eq]
  split
  · have htorn := items_teardown (e.dropHold t) t t'
    exact ⟨htorn.buffer.trans hdrop.buffer, htorn.unread.trans hdrop.unread,
      htorn.events.trans hdrop.events⟩
  · exact hdrop

theorem view_release (h : e.isLastHold t = false) (t' : TimelineId) :
    SameView (e.timeline t') ((e.release (.timeline t)).timeline t') := by
  rw [release_eq, h]
  exact view_dropHold e t t'

theorem waiting_of_asks {o : OperationId} (h : e.asks (.operation o) = some (t, r)) :
    ∃ kind, e.operations[o]? = some ⟨t, kind, .waiting r⟩ := by
  unfold asks at h
  dsimp only at h
  split at h
  · rename_i t' kind request hop
    obtain ⟨rfl, rfl⟩ := Prod.mk.inj (Option.some.inj h)
    exact ⟨kind, hop⟩
  · cases h

theorem refetch_of_asks {k : TaskId} (h : e.asks (.task k) = some (t, r)) :
    ∃ started aborted finished,
      e.tasks[k]? = some ⟨.refetch t r, started, aborted, finished⟩ := by
  unfold asks jobs at h
  cases hk : e.tasks[k]? with
  | none => simp [hk] at h
  | some task =>
      obtain ⟨job, started, aborted, finished⟩ := task
      cases job with
      | pump t' s => simp [hk] at h
      | refetch t' request =>
          obtain ⟨rfl, rfl⟩ : t' = t ∧ request = r := by simpa [hk] using h
          exact ⟨started, aborted, finished, rfl⟩

-- An answer under an earlier generation.
theorem answer_of_late (h : e.asks a = some (t, r))
    (hlate : r.generation ≠ (e.timeline t).generation)
    (result : Except StorageError (List Item)) : e.EndsOnly result a := by
  cases a with
  | operation o =>
      obtain ⟨kind, hop⟩ := waiting_of_asks h
      exact ⟨kind, by simp [hop], complete_late hop hlate result⟩
  | task k =>
      obtain ⟨started, aborted, finished, hk⟩ := refetch_of_asks h
      have hne : ((e.finishTask k).timeline t).generation ≠ r.generation := by
        rw [(background_finishTask e k).timeline]
        exact Ne.symm hlate
      simp only [EndsOnly, answer, completeTask, hk, completeRefetch, if_pos hne, ite_self]

theorem close_of_waiting {o : OperationId} {kind : OperationKind} {status status' : Status}
    (h : e.operations[o]? = some ⟨t, kind, status⟩) :
    e.close o status' = (e.setStatus o status').release (.timeline t) := by
  simp only [close, h]

theorem ignored_of_late (h : e.asks a = some (t, r))
    (hlate : r.generation ≠ (e.timeline t).generation)
    (result : Except StorageError (List Item)) : e.Ignored a t result := by
  have hends := answer_of_late h hlate result
  cases a with
  | operation o =>
      obtain ⟨kind, hop⟩ := waiting_of_asks h
      obtain ⟨kind', hkind, heq⟩ := hends
      refine ⟨⟨kind', hkind, heq⟩, ?_, ?_, ?_⟩
      · refine ⟨e.setStatus o (.done (lateResult kind' result)), fun _ => .refl _, ?_⟩
        exact heq.trans (close_of_waiting hop)
      · intro t'
        rw [heq, close_of_waiting hop]
        exact items_release (e.setStatus o _) t t'
      · intro hlast t'
        rw [heq, close_of_waiting hop]
        exact view_release (e := e.setStatus o _) hlast t'
  | task k =>
      have hb := background_finishTask e k
      refine ⟨hends, ⟨e.finishTask k, fun t' => ?_, hends⟩, ?_, ?_⟩
      · rw [hb.timeline]
        exact .refl _
      · intro t'
        rw [show e.answer result (.task k) = e.finishTask k from hends, hb.timeline]
        exact (SameView.refl _).toSameItems
      · intro hlast t'
        rw [show e.answer result (.task k) = e.finishTask k from hends, hb.timeline]
        exact .refl _

theorem buffer_absorb (T : Timeline) (items : List Item) :
    (T.absorb items).1.buffer = (T.buffer.merge items).1 := by
  obtain ⟨events, h⟩ := absorb_eq T items
  rw [h]

theorem buffer_close (e : Engine) (o : OperationId) (status : Status) (t : TimelineId) :
    ((e.close o status).timeline t).buffer = (e.timeline t).buffer := by
  unfold close
  split
  · exact (items_release ..).buffer
  · rfl

-- An answer under the generation of the timeline.
theorem buffer_complete {o : OperationId} (ht : t < e.timelines.length)
    (h : e.asks (.operation o) = some (t, r)) (hg : r.generation = (e.timeline t).generation)
    (items : List Item) :
    ((e.complete o (.ok items)).timeline t).buffer = ((e.timeline t).buffer.merge items).1 := by
  obtain ⟨kind, hop⟩ := waiting_of_asks h
  cases completes e o (.ok items) with
  | unasked hnone heq => exact absurd hop (hnone t kind r)
  | ended hop' hwhy heq =>
      cases hop.symm.trans hop'
      rcases hwhy with hpast | ⟨-, cause, hcause⟩
      · exact absurd hg hpast
      · cases hcause
  | merged hop' hg' hphase heq =>
      cases hop.symm.trans hop'
      rw [heq, buffer_close, timeline_modifyTimeline_self ht, buffer_absorb]

theorem buffer_answer (ht : t < e.timelines.length) (h : e.asks a = some (t, r))
    (hg : r.generation = (e.timeline t).generation) (halive : e.isAlive (.timeline t) = true)
    (items : List Item) :
    ((e.answer (.ok items) a).timeline t).buffer = ((e.timeline t).buffer.merge items).1 := by
  cases a with
  | operation o => exact buffer_complete ht h hg items
  | task k =>
      obtain ⟨started, aborted, finished, hk⟩ := refetch_of_asks h
      have hb := background_finishTask e k
      have hT := hb.timeline t
      have halive' : (e.finishTask k).isAlive (.timeline t) = true := by
        simpa only [isAlive, hb.timelines] using halive
      have ht' : t < (e.finishTask k).timelines.length := hb.timelines ▸ ht
      have hne : ¬ ((e.finishTask k).timeline t).generation ≠ r.generation := by
        rw [hT]
        exact not_not_intro hg.symm
      simp only [answer, completeTask, hk, halive', if_true, completeRefetch, if_neg hne]
      rw [timeline_modifyTimeline_self (by simpa [modifyTimeline] using ht'), buffer_absorb,
        timeline_modifyTimeline_self ht', hT]

-- Storage that answers with items puts them into the buffer, and what was asked for is what the
-- filter in use accepts.
structure Merged (e : Engine) (a : Asker) (t : TimelineId) (r : FetchRequest) : Prop where
  text : r.text = (e.timeline t).compiled.queryText
  buffer : e.isAlive (.timeline t) = true → ∀ items,
    ((e.answer (.ok items) a).timeline t).buffer = ((e.timeline t).buffer.merge items).1

end FilteredFeed.Engine
