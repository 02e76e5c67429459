import FilteredFeed.Proofs.Engine.Timely

namespace FilteredFeed.Engine

open FilteredFeed.Feed FilteredFeed.Filter FilteredFeed.Listener FilteredFeed.Timeline

variable [Patterns]
variable {e e' e'' : Engine} {t : TimelineId} {q : QueryId} {m : Move}
variable {f : Frame} {rest frames : List Frame} {revision : Nat}

-- Only a change or a toggle of a query is announced.

def Frame.announces : Frame → Bool
  | .announce _ _ => true
  | _ => false

-- What is left to be done announces nothing.
def Mute (e e' : Engine) : Prop :=
  ∃ frames, e'.stack = frames ++ e.stack ∧ ∀ f ∈ frames, f.announces = false

theorem mute_of_stack (h : e'.stack = e.stack) : Mute e e' := ⟨[], h, nofun⟩

theorem Mute.refl (e : Engine) : Mute e e := mute_of_stack rfl

theorem Mute.trans (h : Mute e e') (h' : Mute e' e'') : Mute e e'' := by
  obtain ⟨frames, hs, hf⟩ := h
  obtain ⟨frames', hs', hf'⟩ := h'
  refine ⟨frames' ++ frames, by rw [hs', hs, List.append_assoc], fun f hmem => ?_⟩
  rcases List.mem_append.mp hmem with hmem | hmem
  · exact hf' f hmem
  · exact hf f hmem

theorem Apart.mute (h : Apart t e e') : Mute e e' := mute_of_stack h.stack

theorem Within.mute (h : Within t e e') : Mute e e' := h.toApart.mute

theorem Background.mute (h : Background e e') : Mute e e' := mute_of_stack h.stack

theorem mute_push (e : Engine) (h : ∀ f ∈ frames, f.announces = false) : Mute e (e.push frames) :=
  ⟨frames, rfl, h⟩

theorem mute_deactivations (e : Engine) (activated : Option QueryId)
    (h : ∀ f ∈ frames, f.announces = false) :
    Mute e (e.push (deactivations activated ++ frames)) := by
  refine mute_push e fun f hmem => ?_
  rcases List.mem_append.mp hmem with hmem | hmem
  · cases activated with
    | none => cases hmem
    | some q =>
        rw [List.mem_singleton.mp hmem]
        rfl
  · exact h f hmem

theorem mute_stopped (e : Engine) (activated : Option QueryId) :
    Mute e (e.push (deactivations activated)) := by
  have hpushed : Mute e (e.push (deactivations activated ++ [])) :=
    mute_deactivations e activated nofun
  rwa [List.append_nil] at hpushed

theorem mute_retain (e : Engine) (target : Target) : Mute e (e.retain target) := by
  cases target <;> exact .refl _

theorem mute_hold (e : Engine) (t : TimelineId) : Mute e (e.hold t) :=
  (mute_retain e _).trans (mute_push _ (by simp [Frame.announces]))

theorem mute_release (e : Engine) (target : Target) : Mute e (e.release target) := by
  cases target with
  | observer o => exact .refl _
  | timeline t =>
      have hdropped : Mute e (e.dropHold t) := .refl _
      rw [release_eq]
      split
      · exact (hdropped.trans (apart_teardown _ t).mute).trans (mute_stopped ..)
      · exact hdropped

theorem mute_close (e : Engine) (o : OperationId) (status : Status) :
    Mute e (e.close o status) := by
  have hended : Mute e (e.setStatus o status) := .refl _
  unfold close
  split
  · exact hended.trans (mute_release ..)
  · exact .refl e

theorem mute_prepare (e : Engine) (t : TimelineId) (o : OperationId) (generation : Nat) :
    Mute e (e.prepare t o generation) := by
  rw [prepare_eq]
  split
  · exact mute_push e (by simp [Frame.announces])
  · exact (within_prepared e t).mute

theorem mute_attach (e : Engine) (t : TimelineId) (q : QueryId) (epoch : Nat) (purpose : Purpose) :
    Mute e (e.attach t q epoch purpose) := by
  have henrol := (apart_enrol e t q).mute
  rw [attach_eq]
  split
  · cases purpose <;> exact mute_push e (by simp [Frame.announces])
  · cases purpose with
    | swap => exact henrol.trans (within_refresh _ t).mute
    | activation o generation => exact henrol.trans (mute_prepare ..)

theorem mute_deactivate (e : Engine) (t : TimelineId) : Mute e (e.deactivate t) := by
  unfold deactivate
  split
  · exact (apart_teardown e t).mute.trans (mute_stopped ..)
  · exact .refl e

theorem mute_invalidate (e : Engine) (t : TimelineId) : Mute e (e.invalidate t) := by
  unfold invalidate
  split
  · exact .refl e
  · exact (within_invalidateNow e t).mute

theorem mute_dispose (e : Engine) (t : TimelineId) : Mute e (e.dispose t) := by
  rw [dispose_eq]
  split
  · exact .refl e
  · exact ((apart_endWork e t).mute.trans (within_modifyTimeline _ t ended).mute).trans
      (mute_deactivations _ _ (by simp [Frame.announces]))

theorem announces_attachment (T : Timeline) (t : TimelineId) (query : Option QueryId) :
    ∀ f ∈ attachment T t query, f.announces = false := by
  unfold attachment
  split
  · split <;> simp [Frame.announces]
  · simp

theorem mute_setQuery (e : Engine) (t : TimelineId) (query : Option QueryId) :
    Mute e (e.setQuery t query).2 := by
  rw [setQuery_eq]
  split
  · exact .refl e
  · exact ((apart_leaveQuery e t query).mute.trans (within_invalidateNow _ t).mute).trans
      (mute_deactivations _ _ (announces_attachment _ t query))

theorem mute_currentFilter (e : Engine) (t : TimelineId) : Mute e (e.currentFilter t).2 := by
  unfold currentFilter
  split
  · split
    · exact (within_compile e t _).mute
    · exact .refl e
  · exact .refl e

theorem mute_startActivation (e : Engine) (t : TimelineId) (hasRuntime : Bool) :
    Mute e (e.startActivation t hasRuntime).2 := by
  have hadded : Mute e (e.addOperation t .activation).2 := .refl _
  have hlaunch (e : Engine) : Mute e (e.launch t) := .refl _
  rcases startActivation_cases e t hasRuntime with ⟨-, -, heq⟩ | ⟨-, result, heq⟩
  · rw [heq]
    refine hadded.trans ?_
    unfold launched
    split
    · exact (hlaunch _).trans (mute_push _ (by simp [Frame.announces]))
    · exact (hlaunch _).trans (mute_prepare ..)
  · rw [heq]
    exact hadded.trans (mute_close ..)

theorem mute_startPage (e : Engine) (t : TimelineId) (before : Option ItemId) (limit : Nat) :
    Mute e (e.startPage t before limit).2 := by
  have hadded : Mute e (e.addOperation t .page).2 := .refl _
  unfold startPage
  dsimp only
  split
  · exact hadded.trans (mute_close ..)
  · exact hadded

theorem mute_complete (e : Engine) (o : OperationId) (result : Except StorageError (List Item)) :
    Mute e (e.complete o result) := by
  cases completes e o result with
  | unasked hnone heq =>
      rw [heq]
      exact .refl e
  | ended hop hwhy heq =>
      rw [heq]
      exact mute_close ..
  | merged hop hg hphase heq =>
      rw [heq]
      exact (within_modifyTimeline ..).mute.trans (mute_close ..)
  | rolledBack hop hg heq =>
      have hended : Mute e (e.setStatus o .running) := .refl _
      rw [heq]
      exact (hended.trans (apart_teardown _ _).mute).trans
        (mute_deactivations _ _ (by simp [Frame.announces]))

theorem mute_cancel (e : Engine) (o : OperationId) : Mute e (e.cancel o) := by
  unfold cancel
  split
  · exact mute_close ..
  · exact .refl e

theorem mute_completeTask (e : Engine) (k : TaskId) (result : Except StorageError (List Item)) :
    Mute e (e.completeTask k result) := by
  cases replenishes e k result with
  | background hb => exact hb.mute
  | filled hasks halive hg hb heq | failed hasks halive hg hb heq =>
      rw [heq]
      exact hb.mute.trans (within_modifyTimeline ..).mute

theorem mute_turn (e : Engine) (k : TaskId) : Mute e (e.turn k) := by
  cases polls e k with
  | background hb => exact hb.mute
  | offered htask halive hitem hb heq =>
      rw [heq]
      exact hb.mute.trans (within_offer ..).mute
  | lagged htask halive hactive hmissed hb heq =>
      rw [heq]
      exact hb.mute.trans (within_startRefetch ..).mute

theorem mute_after (hmodest : m.isModest = true) : Mute e (e.after m) := by
  cases m with
  | step | leaveObserver | setExpression | setSource => cases hmodest
  | addQuery | addChannel | listen | retain | takeUnread => exact .refl _
  | activateQuery q | deactivateQuery q => exact mute_push e (by simp [Frame.announces])
  | addTimeline config storage stream query hasSink =>
      have hadded (new : Timeline) : Mute e { e with timelines := e.timelines ++ [new] } := .refl _
      exact (hadded _).trans (within_recompile _ _).mute
  | compile q => exact (within_compile e 0 q).mute
  | unsubscribe q id => exact (apart_dropSubscription e 0 (some (q, id))).mute
  | releaseObserver o => exact mute_release e (.observer o)
  | drop t => exact mute_release e (.timeline t)
  | deactivate t => exact (mute_hold e t).trans (mute_deactivate _ t)
  | invalidate t => exact (mute_hold e t).trans (mute_invalidate _ t)
  | dispose t => exact (mute_hold e t).trans (mute_dispose _ t)
  | setQuery t query => exact (mute_hold e t).trans (mute_setQuery _ t query)
  | accepts t item => exact mute_currentFilter e t
  | offer t item => exact (within_offer e t item).mute
  | publish s item => exact (background_publish e s item).mute
  | closeStream s => exact (background_closeStream e s).mute
  | startActivation t hasRuntime => exact mute_startActivation e t hasRuntime
  | startPage t before limit => exact mute_startPage e t before limit
  | answer asker result =>
      cases asker with
      | operation o => exact mute_complete e o result
      | task k => exact mute_completeTask e k result
  | cancel o => exact mute_cancel e o
  | wake k => exact (background_wake e k).mute
  | nextTask => exact (background_nextTask e).mute
  | turn k => exact mute_turn e k

-- A toggle announces the revision that the query has.
theorem announces_toggled_or (e : Engine) (q : QueryId) :
    Mute e (e.toggled q) ∨
      (e.toggled q).stack = .announce q ((e.toggled q).revisions q) :: e.stack := by
  unfold toggled
  split
  · exact .inl (.refl e)
  · exact .inr rfl

theorem announces_perform (hmodest : f.isModest = true) :
    Mute e (e.perform f) ∨
      ∃ q, (e.perform f).stack = .announce q ((e.perform f).revisions q) :: e.stack := by
  cases f with
  | announce | rounds | observer => cases hmodest
  | activate q =>
      refine (announces_toggled_or (e.modifyQuery q fun query =>
        { query with activations := query.activations + 1 }) q).imp (fun h => h) fun h => ⟨q, h⟩
  | deactivate q =>
      change Mute e (e.removeActivation q) ∨
        ∃ q', (e.removeActivation q).stack = .announce q' ((e.removeActivation q).revisions q') :: e.stack
      unfold removeActivation
      split
      · refine (announces_toggled_or (e.modifyQuery q fun query =>
          { query with activations := query.activations - 1 }) q).imp (fun h => h) fun h => ⟨q, h⟩
      · exact .inl (.refl e)
  | call target revision =>
      cases target with
      | timeline t => exact .inl (within_onInvalidated e t revision).mute
      | observer o => cases hmodest
  | release target => exact .inl (mute_release e target)
  | attach t q epoch purpose => exact .inl (mute_attach e t q epoch purpose)
  | emit t delta => exact .inl (within_emit e t delta).mute
  | finish o result => exact .inl (mute_close e o _)

-- A change or a toggle is announced at once, with the revision that the query has then, and so is
-- what is put off during a round.
structure Punctual (e : Engine) : Prop where
  first : ∀ q revision rest, e.stack = .announce q revision :: rest → revision = e.revisions q
  later : ∀ q revision, .announce q revision ∉ e.stack.tail
  pending : ∀ q revision, (e.query q).registry.pending = some revision →
    revision = e.revisions q ∨ .announce q (e.revisions q) ∈ e.stack

theorem punctual_init : Punctual {} := ⟨nofun, nofun, fun _ _ h => nomatch h⟩

-- There is nothing left to be announced.
def Silent (e : Engine) : Prop := ∀ f ∈ e.stack, f.announces = false

theorem Silent.punctual (h : Silent e)
    (hpending : ∀ q revision, (e.query q).registry.pending = some revision →
      revision = e.revisions q) : Punctual e := by
  refine ⟨fun q revision rest hs => ?_, fun q revision hmem => ?_,
    fun q revision hp => .inl (hpending q revision hp)⟩
  · cases h (.announce q revision) (hs ▸ List.mem_cons_self)
  · cases h _ (List.mem_of_mem_tail hmem)

theorem Silent.mute (h : Silent e) (hmute : Mute e e') : Silent e' := by
  obtain ⟨frames, hs, hf⟩ := hmute
  intro f hmem
  rw [hs] at hmem
  rcases List.mem_append.mp hmem with hmem | hmem
  · exact hf f hmem
  · exact h f hmem

namespace Punctual

theorem silent_tail (h : Punctual e) : ∀ f ∈ e.stack.tail, f.announces = false := by
  intro f hmem
  cases f with
  | announce q revision => exact absurd hmem (h.later q revision)
  | _ => rfl

theorem silent_rest (h : Punctual e) (hs : e.stack = f :: rest) :
    ∀ f ∈ rest, f.announces = false := by
  have htail := h.silent_tail
  rwa [hs] at htail

theorem silent (h : Punctual e) (hs : e.stack = f :: rest) (hf : f.announces = false) : Silent e := by
  intro f' hmem
  rw [hs] at hmem
  rcases List.mem_cons.mp hmem with rfl | hmem
  · exact hf
  · exact h.silent_rest hs f' hmem

-- Somebody who has control finds nothing left to be announced.
theorem silent_of_allows (h : Punctual e) (hallows : e.allows m = true) (hm : m ≠ .step) :
    Silent e := by
  cases hs : e.stack with
  | nil =>
      intro f hmem
      rw [hs] at hmem
      cases hmem
  | cons f rest =>
      have hobserver := isOpen_of_allows hallows hm hs
      refine h.silent hs ?_
      cases f with
      | observer o revision => rfl
      | _ => cases hobserver

theorem pending_of_silent (h : Punctual e) (hsilent : Silent e) (q : QueryId) (revision : Nat)
    (hp : (e.query q).registry.pending = some revision) : revision = e.revisions q := by
  refine (h.pending q revision hp).resolve_right fun hmem => ?_
  cases hsilent _ hmem

theorem modest {d : Option TimelineId} (h : Punctual e) (hsilent : Silent e)
    (hmodest : Modest d e e') (hmute : Mute e e') : Punctual e' := by
  refine (hsilent.mute hmute).punctual fun q revision hp => ?_
  have hpending : (e'.query q).registry.pending = (e.query q).registry.pending :=
    congrArg Prod.snd (congrFun hmodest.notices q)
  rw [hmodest.revisions]
  exact h.pending_of_silent hsilent q revision (hpending ▸ hp)

theorem popped (h : Punctual e) (hs : e.stack = f :: rest) (hf : f.announces = false) :
    Punctual { e with stack := rest } :=
  Silent.punctual (h.silent_rest hs) (h.pending_of_silent (h.silent hs hf))

theorem performed (h : Punctual e) (hs : e.stack = f :: rest) (hmodest : f.isModest = true) :
    Punctual (({ e with stack := rest } : Engine).perform f) := by
  have hf : f.announces = false := by
    cases f with
    | announce => cases hmodest
    | _ => rfl
  have hpopped := h.popped hs hf
  have hsilent : Silent { e with stack := rest } := h.silent_rest hs
  have hleft := modest_perform (e := { e with stack := rest }) hmodest
  rcases announces_perform (e := { e with stack := rest }) hmodest with hmute | ⟨q, hannounced⟩
  · exact hpopped.modest hsilent hleft hmute
  · refine ⟨fun q' revision rest' hs' => ?_, fun q' revision hmem => ?_, fun q' revision hp => ?_⟩
    · obtain ⟨heq, -⟩ := List.cons.inj (hannounced.symm.trans hs')
      obtain ⟨rfl, rfl⟩ := Frame.announce.inj heq
      rfl
    · rw [hannounced] at hmem
      cases hsilent _ hmem
    · have hpending : (_ : Option Nat) = (e.query q').registry.pending :=
        congrArg Prod.snd (congrFun hleft.notices q')
      rw [hleft.revisions]
      exact .inl (hpopped.pending_of_silent hsilent q' revision (hpending ▸ hp))

-- A notification goes on, and what it puts off is of the present revision.
theorem resumed (h : Punctual e) (hs : e.stack = f :: rest) {g : Registry Target → Registry Target}
    (hg : ∀ revision, (g (e.query q).registry).pending = some revision → revision = e.revisions q)
    (hothers : ∀ q', q' ≠ q → ∀ revision, f ≠ .announce q' revision) (targets : List Target)
    (hframes : ∀ f ∈ frames, f.announces = false) :
    Punctual (e.resumed q g targets frames rest) := by
  have hother {q' : QueryId} {revision : Nat} (hne : q' ≠ q)
      (hp : (e.query q').registry.pending = some revision) : revision = e.revisions q' := by
    refine (h.pending q' revision hp).resolve_right fun hmem => ?_
    rw [hs] at hmem
    rcases List.mem_cons.mp hmem with heq | hmem
    · exact hothers q' hne _ heq.symm
    · cases h.silent_rest hs _ hmem
  refine Silent.punctual (fun f hmem => ?_) fun q' revision hp => ?_
  · rw [stack_resumed] at hmem
    rcases List.mem_append.mp hmem with hmem | hmem
    · exact hframes f hmem
    · exact h.silent_rest hs f hmem
  · rw [revisions_resumed]
    rcases query_resumed e q q' g targets frames rest with ⟨hne, heq⟩ | ⟨rfl, heq⟩ |
      ⟨rfl, heq, hempty⟩
    · exact hother hne (heq ▸ hp)
    · exact hg revision (heq ▸ hp)
    · rw [heq, hempty] at hp
      cases hp

theorem amended (h : Punctual e) (hsilent : Silent e) (hq : q < e.queries.length)
    {g : Query Target → Query Target} (hg : Amends g (e.query q)) :
    Punctual (e.amend q g ((e.query q).revision + 1)) := by
  have hnow : (e.amend q g ((e.query q).revision + 1)).revisions q = (e.query q).revision + 1 :=
    revision_amended hq hg
  refine ⟨fun q' revision rest hs => ?_, fun q' revision hmem => ?_, fun q' revision hp => ?_⟩
  · obtain ⟨heq, -⟩ := List.cons.inj hs
    obtain ⟨rfl, rfl⟩ := Frame.announce.inj heq
    exact hnow.symm
  · cases hsilent _ hmem
  · by_cases heq : q' = q
    · subst heq
      rw [hnow]
      exact .inr List.mem_cons_self
    · rw [registry_amend hg] at hp
      have hsame : (e.amend q g ((e.query q).revision + 1)).query q' = e.query q' :=
        query_modifyQuery_ne heq g
      unfold revisions
      rw [hsame]
      exact .inl (h.pending_of_silent hsilent q' revision hp)

end Punctual

-- A request that is put off during a round is of the present revision, if those before it were.
theorem pending_request (hw : Wired e) (ht : Timely e) (hrevision : revision = e.revisions q)
    {revision' : Nat}
    (hp : ((e.query q).registry.request e.isAlive revision).pending = some revision') :
    revision' = e.revisions q := by
  cases hround : (e.query q).registry.round with
  | none =>
      have hnone : (e.query q).registry.pending = none := by
        have hpending := (hw.orderly q).pending
        rw [hround] at hpending
        simpa using hpending
      rw [Registry.request_of_none hround] at hp
      cases hnone.symm.trans hp
  | some round =>
      rw [Registry.request_of_round hround] at hp
      obtain rfl := Option.some.inj hp
      cases hpending : (e.query q).registry.pending with
      | none => exact hrevision
      | some earlier =>
          have hle := (ht.within q).pending earlier hpending
          exact hrevision ▸ Nat.max_eq_left (hrevision ▸ hle)

omit [Patterns] in
theorem pending_advance {r : Registry Target} {alive : Target → Bool} {revision : Nat}
    (hp : (r.advance alive).2.pending = some revision) : r.pending = some revision := by
  unfold Registry.advance at hp
  split at hp
  · exact hp
  · exact hp
  · split at hp
    · cases hp
    · exact hp

omit [Patterns] in
theorem announces_roundFrames (q : QueryId) (next : Registry.Next Target) :
    ∀ f ∈ roundFrames q next, f.announces = false := by
  cases next <;> simp [roundFrames, Frame.announces]

theorem Punctual.after (h : Punctual e) (hw : Wired e) (ht : Timely e)
    (hallows : e.allows m = true) : Punctual (e.after m) := by
  by_cases hstep : m = .step
  · subst hstep
    obtain ⟨f, rest, hs, hobserver, hafter⟩ := after_step hallows
    rw [hafter]
    cases f with
    | announce q revision =>
        obtain ⟨targets, heq⟩ := announce_eq_resumed e q revision rest
        change Punctual (({ e with stack := rest } : Engine).announce q revision)
        rw [heq]
        refine h.resumed hs (fun revision' hp => ?_) (fun q' hne revision' heq => ?_) targets ?_
        · exact pending_request hw ht (h.first q revision rest hs) hp
        · exact hne (Frame.announce.inj heq).1.symm
        · intro f hmem
          rw [eq_rounds_of_mem hmem]
          rfl
    | rounds q =>
        change Punctual (({ e with stack := rest } : Engine).continueRounds q)
        rw [continueRounds_eq]
        refine h.resumed hs (fun revision hp => ?_) (fun _ _ _ => nofun) _ (announces_roundFrames q _)
        exact h.pending_of_silent (h.silent hs rfl) q revision (pending_advance hp)
    | call target revision =>
        cases target with
        | timeline t => exact h.performed hs rfl
        | observer o =>
            refine Silent.punctual (fun f hmem => ?_) (h.pending_of_silent (h.silent hs rfl))
            rcases List.mem_cons.mp hmem with rfl | hmem
            · rfl
            · exact h.silent_rest hs f hmem
    | observer => cases hobserver
    | activate | deactivate | release | attach | emit | finish => exact h.performed hs rfl
  · have hsilent := h.silent_of_allows hallows hstep
    have hproceeds := proceeds_after hallows
    have hmuted (hm : m.isModest = true) : Mute e (e.after m) := mute_after hm
    generalize e.after m = e' at hproceeds hmuted ⊢
    cases hproceeds with
    | modest hm hmodest => exact h.modest hsilent hmodest (hmuted hm)
    | left hs =>
        exact Silent.punctual (h.silent_rest hs) (h.pending_of_silent hsilent)
    | amended hm hq hf => exact h.amended hsilent hq hf
    | performed | announced | continued | handed => exact absurd rfl hstep

theorem IsReached.punctual (h : IsReached e) : Punctual e := by
  obtain ⟨moves, hruns, rfl⟩ := h
  have hboth := hruns.induction (P := fun e => IsReached e ∧ Punctual e)
    ⟨⟨[], trivial, rfl⟩, punctual_init⟩ fun e m hp hallows _ =>
      ⟨hp.1.after hallows, hp.2.after hp.1.wired hp.1.timely hallows⟩
  exact hboth.2

end FilteredFeed.Engine
