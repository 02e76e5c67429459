import FilteredFeed.Proofs.Engine.Phases
import FilteredFeed.Proofs.Engine.Unheard

namespace FilteredFeed

open FilteredFeed.Feed FilteredFeed.Filter FilteredFeed.Listener FilteredFeed.Timeline
open FilteredFeed.Scenario (Asker)

namespace Listener.Registry

variable {τ : Type} {r : Registry τ} {alive : τ → Bool} {revision : Nat} {x : τ}

-- Who waits in a round was waiting before, or was subscribed.

theorem mem_waiting_startRound (h : x ∈ (r.startRound alive revision).waiting) :
    ∃ s ∈ r.subscriptions, s.2 = x := by
  obtain ⟨s, hs, rfl⟩ := List.mem_map.mp h
  exact ⟨s, (List.mem_filter.mp hs).1, rfl⟩

theorem mem_waiting_request (h : x ∈ (r.request alive revision).waiting) :
    x ∈ r.waiting ∨ ∃ s ∈ r.subscriptions, s.2 = x := by
  cases hround : r.round with
  | none =>
      rw [request_of_none hround] at h
      exact .inr (mem_waiting_startRound h)
  | some round =>
      rw [request_of_round hround] at h
      exact .inl h

theorem mem_waiting_advance (h : x ∈ (r.advance alive).2.waiting) :
    x ∈ r.waiting ∨ ∃ s ∈ r.subscriptions, s.2 = x := by
  unfold advance at h
  split at h
  · exact .inl h
  · rename_i listener others hround
    refine .inl ?_
    unfold waiting
    rw [hround]
    exact List.mem_cons_of_mem _ h
  · split at h
    · exact .inr (mem_waiting_startRound (r := { r with pending := none }) h)
    · cases h

theorem mem_waiting_of_call (h : (r.advance alive).1 = .call x revision) : x ∈ r.waiting := by
  unfold advance at h
  unfold waiting
  split at h
  · cases h
  · rename_i hround
    rw [hround, (Next.call.inj h).1]
    exact List.mem_cons_self
  · split at h <;> cases h

end Listener.Registry

variable [Patterns]

namespace Engine

variable {e e' : Engine} {t : TimelineId} {q : QueryId} {x : Target} {f : Frame} {rest : List Frame}
variable {m : Move}

-- What the first call of the stack does about those who are unheard, and those who are ahead.

theorem Unheard.pop (hx : Unheard x e) (hs : e.stack = f :: rest) :
    Unheard x { e with stack := rest } :=
  ⟨hx.subscriptions, hx.waiting, fun f' hmem => hx.stack f' (hs ▸ List.mem_cons_of_mem _ hmem)⟩

theorem Unheard.push (hx : Unheard x e) {frames : List Frame}
    (h : ∀ f ∈ frames, f.addresses x = false) : Unheard x (e.push frames) := by
  refine ⟨hx.subscriptions, hx.waiting, fun f hmem => ?_⟩
  rcases List.mem_append.mp hmem with hmem | hmem
  · exact h f hmem
  · exact hx.stack f hmem

theorem Unheard.modifyQuery (hx : Unheard x e) {g : Query Target → Query Target}
    (hsubscriptions : ∀ s ∈ (g (e.query q)).registry.subscriptions, s.2 ≠ x)
    (hwaiting : x ∉ (g (e.query q)).registry.waiting) : Unheard x (e.modifyQuery q g) := by
  refine ⟨fun q' s hmem => ?_, fun q' hmem => ?_, hx.stack⟩
  · unfold Engine.subscriptions at hmem
    rcases query_modifyQuery e q q' g with hQ | ⟨rfl, hQ⟩
    · rw [hQ] at hmem
      exact hx.subscriptions q' s hmem
    · rw [hQ] at hmem
      exact hsubscriptions s hmem
  · rcases query_modifyQuery e q q' g with hQ | ⟨rfl, hQ⟩
    · exact hx.waiting q' (hQ ▸ hmem)
    · exact hwaiting (hQ ▸ hmem)

theorem Unheard.announce (hx : Unheard x e) (q : QueryId) (revision : Nat) :
    Unheard x (e.announce q revision) := by
  have hregistry : Unheard x (e.modifyQuery q fun query =>
      { query with registry := query.registry.request e.isAlive revision }) := by
    refine hx.modifyQuery (fun s hmem => hx.subscriptions q s (mem_of_request hmem)) fun hmem => ?_
    rcases Registry.mem_waiting_request hmem with hmem | ⟨s, hmem, heq⟩
    · exact hx.waiting q hmem
    · exact hx.subscriptions q s hmem heq
  unfold Engine.announce
  dsimp only
  split
  · exact hregistry
  · exact ((tame_retainAll ..).trans (tame_push _ (by simp [Frame.isCall]))).unheard hregistry

theorem Unheard.continueRounds (hx : Unheard x e) (q : QueryId) :
    Unheard x (e.continueRounds q) := by
  have hregistry : Unheard x (e.modifyQuery q fun query =>
      { query with registry := ((e.query q).registry.advance e.isAlive).2 }) := by
    refine hx.modifyQuery (fun s hmem => hx.subscriptions q s (mem_of_advance hmem)) fun hmem => ?_
    rcases Registry.mem_waiting_advance hmem with hmem | ⟨s, hmem, heq⟩
    · exact hx.waiting q hmem
    · exact hx.subscriptions q s hmem heq
  unfold Engine.continueRounds
  dsimp only
  split
  · rename_i listener revision hnext
    have hne : listener ≠ x := by
      rintro rfl
      exact hx.waiting q (Registry.mem_waiting_of_call hnext)
    exact hregistry.push (by simp [Frame.addresses, hne])
  · exact ((tame_retainAll ..).trans (tame_push _ (by simp [Frame.isCall]))).unheard hregistry
  · exact hregistry

theorem Unheard.enrol (hx : Unheard x e) (hne : x ≠ .timeline t) (q : QueryId) :
    Unheard x (e.enrol t q) := by
  have hsubscribed : Unheard x (e.modifyQuery q fun query =>
      { query with registry := ((e.query q).registry.subscribe (.timeline t)).2 }) := by
    refine hx.modifyQuery (fun s hmem => ?_) (hx.waiting q)
    rcases List.mem_append.mp hmem with hmem | hmem
    · exact hx.subscriptions q s hmem
    · rw [List.mem_singleton.mp hmem]
      exact Ne.symm hne
  unfold Engine.enrol Engine.unsubscribe
  exact (((tame_dropSubscription ..).trans (tame_modifyTimeline _ id)).trans
    (tame_modifyTimeline _ id)).unheard hsubscribed

theorem Unheard.attach (hx : Unheard x e) {epoch : Nat} {purpose : Purpose}
    (hne : x ≠ .timeline t ∨ (e.timeline t).epoch ≠ epoch) :
    Unheard x (e.attach t q epoch purpose) := by
  rw [attach_eq]
  split
  · cases purpose with
    | swap => exact (tame_push e (by simp [Frame.isCall])).unheard hx
    | activation o generation => exact (tame_push e (by simp [Frame.isCall])).unheard hx
  · rename_i hepoch
    have henrol := hx.enrol (hne.resolve_right hepoch) q
    cases purpose with
    | swap => exact (tame_refresh _ t).unheard henrol
    | activation o generation => exact (tame_prepare _ t o generation).unheard henrol

-- Nobody comes to be heard but by an attachment.
theorem Unheard.perform (hx : Unheard x e) (hs : e.stack = f :: rest)
    (hf : ∀ t q epoch purpose, f = .attach t q epoch purpose →
      x ≠ .timeline t ∨ (e.timeline t).epoch ≠ epoch) :
    Unheard x (({ e with stack := rest } : Engine).perform f) := by
  have hpop := hx.pop hs
  have haddresses := hx.stack f (hs ▸ List.mem_cons_self)
  cases f with
  | activate q => exact (tame_addActivation _ q).unheard hpop
  | deactivate q => exact (tame_removeActivation _ q).unheard hpop
  | announce q revision => exact hpop.announce q revision
  | rounds q => exact hpop.continueRounds q
  | call target revision =>
      cases target with
      | timeline t => exact (tame_onInvalidated _ t revision).unheard hpop
      | observer o =>
          refine hpop.push fun f' hmem => ?_
          rw [List.mem_singleton.mp hmem]
          exact haddresses
  | observer o revision => exact hpop
  | release target => exact (tame_release _ target).unheard hpop
  | attach t q epoch purpose => exact hpop.attach (hf t q epoch purpose rfl)
  | emit t delta => exact (tame_emit _ t delta).unheard hpop
  | finish o result => exact (tame_close _ o _).unheard hpop

theorem Prompt.perform (hp : Prompt e) (f : Frame) : Prompt (e.perform f) := by
  cases f with
  | activate q => exact (tame_addActivation e q).prompt hp
  | deactivate q => exact (tame_removeActivation e q).prompt hp
  | announce q revision =>
      unfold Engine.perform Engine.announce
      dsimp only
      split
      · exact hp
      · exact (tame_retainAll (e.modifyQuery q _) _).prompt hp
  | rounds q =>
      unfold Engine.perform Engine.continueRounds
      dsimp only
      split
      · exact hp
      · exact (tame_retainAll (e.modifyQuery q _) _).prompt hp
      · exact hp
  | call target revision =>
      cases target with
      | timeline t => exact (tame_onInvalidated e t revision).prompt hp
      | observer o => exact hp
  | observer o revision => exact hp
  | release target => exact (tame_release e target).prompt hp
  | attach t q epoch purpose =>
      have henrol : Prompt (e.enrol t q) := by
        unfold Engine.enrol Engine.unsubscribe
        exact (((tame_dropSubscription ..).trans (tame_modifyTimeline _ id)).trans
          (tame_modifyTimeline _ id)).prompt hp
      change Prompt (e.attach t q epoch purpose)
      rw [attach_eq]
      split
      · cases purpose <;> exact hp
      · cases purpose with
        | swap => exact (tame_refresh _ t).prompt henrol
        | activation o generation => exact (tame_prepare _ t o generation).prompt henrol
  | emit t delta => exact (tame_emit e t delta).prompt hp
  | finish o result => exact (tame_close e o _).prompt hp

-- A timeline that is neither told of a change nor attached goes on under its generation, or is
-- stopped.

def KeptOrStopped (t : TimelineId) (e e' : Engine) : Prop :=
  (e'.timeline t).epoch = (e.timeline t).epoch ∧
      (e'.timeline t).generation = (e.timeline t).generation ∨
    (e'.timeline t).phase.isActive = false

theorem kept_of_same (h : e'.timeline t = e.timeline t) : KeptOrStopped t e e' :=
  .inl (by rw [h]; exact ⟨rfl, rfl⟩)

theorem kept_of_discreet (h : Discreet e e') (hc : Calm Nothing e e') : KeptOrStopped t e e' :=
  .inl ⟨(h.timeline t).epoch, (hc.timeline t).generation⟩

theorem kept_of_links (h : Links none e e') : KeptOrStopped t e e' := by
  have hT := (h.spares t nofun).timeline
  exact .inl ⟨hT.epoch, hT.generation⟩

theorem kept_release (e : Engine) (t : TimelineId) (target : Target) :
    KeptOrStopped t e (e.release target) := by
  cases target with
  | observer o => exact kept_of_same rfl
  | timeline t' =>
      by_cases hne : t = t'
      · subst hne
        rw [release_eq]
        split
        · rename_i hlast
          have ht : t < (e.dropHold t).timelines.length := by
            simpa [dropHold, modifyTimeline] using isLastHold_lt hlast
          refine .inr ?_
          change (((e.dropHold t).teardown t).2.timeline t).phase.isActive = false
          rw [timeline_teardown ht]
          rfl
        · exact .inl (by rw [timeline_dropHold]; exact ⟨rfl, rfl⟩)
      · exact kept_of_same (timeline_release_ne hne)

theorem kept_close (e : Engine) (t : TimelineId) (o : OperationId) (status : Status) :
    KeptOrStopped t e (e.close o status) := by
  unfold close
  split
  · exact kept_release (e.setStatus o status) t _
  · exact kept_of_same rfl

theorem apart_attach (e : Engine) (t : TimelineId) (q : QueryId) (epoch : Nat) (purpose : Purpose)
    {t' : TimelineId} (hne : t' ≠ t) :
    (e.attach t q epoch purpose).timeline t' = e.timeline t' := by
  rw [attach_eq]
  split
  · cases purpose <;> rfl
  · have henrol := (apart_enrol e t q).others t' hne
    cases purpose with
    | swap => exact ((within_refresh _ t).others t' hne).trans henrol
    | activation o generation =>
        refine Eq.trans ?_ henrol
        dsimp only
        rw [prepare_eq]
        split
        · rfl
        · exact (within_prepared _ t).others t' hne

theorem kept_perform (hcall : ∀ revision, f ≠ .call (.timeline t) revision)
    (hattach : ∀ q epoch purpose, f = .attach t q epoch purpose → (e.timeline t).epoch ≠ epoch) :
    KeptOrStopped t e (e.perform f) := by
  cases f with
  | activate q => exact kept_of_links (links_addActivation e q)
  | deactivate q => exact kept_of_links (links_removeActivation e q)
  | announce q revision =>
      exact kept_of_discreet (discreet_announce e q revision) (calm_announce e q revision)
  | rounds q => exact kept_of_discreet (discreet_continueRounds e q) (calm_continueRounds e q)
  | call target revision =>
      cases target with
      | timeline t' =>
          have hne : t ≠ t' := by
            rintro rfl
            exact hcall revision rfl
          exact kept_of_same ((within_onInvalidated e t' revision).others t hne)
      | observer o => exact kept_of_same rfl
  | observer o revision => exact kept_of_same rfl
  | release target => exact kept_release e t target
  | attach t' q epoch purpose =>
      by_cases hne : t = t'
      · subst hne
        refine kept_of_same ?_
        change (e.attach t q epoch purpose).timeline t = _
        rw [attach_eq, if_pos (hattach q epoch purpose rfl)]
        cases purpose <;> rfl
      · exact kept_of_same (apart_attach e t' q epoch purpose hne)
  | emit t' delta => exact kept_of_links (links_emit e t' delta)
  | finish o result => exact kept_close e t o _

theorem epoch_enrol (e : Engine) (t : TimelineId) (q : QueryId) :
    ((e.enrol t q).timeline t).epoch = (e.timeline t).epoch := by
  by_cases ht : t < e.timelines.length
  · rw [timeline_enrol ht]
  · have hle := Nat.le_of_not_lt ht
    rw [timeline_of_le hle, timeline_of_le ((apart_enrol e t q).size ▸ hle)]

-- Whatever happens, an attachment that is under way is still wanted, or its timeline is stopped.
theorem epoch_perform (e : Engine) (t : TimelineId) (f : Frame) :
    ((e.perform f).timeline t).epoch = (e.timeline t).epoch ∨
      ((e.perform f).timeline t).phase.isActive = false := by
  by_cases hcall : ∃ revision, f = .call (.timeline t) revision
  · obtain ⟨revision, rfl⟩ := hcall
    exact .inl ((discreet_onInvalidated e t revision).timeline t).epoch
  by_cases hattach : ∃ q purpose, f = .attach t q (e.timeline t).epoch purpose
  · obtain ⟨q, purpose, rfl⟩ := hattach
    refine .inl (Eq.trans ?_ (epoch_enrol e t q))
    change ((e.attach t q _ purpose).timeline t).epoch = _
    rw [attach_eq, if_neg (not_not_intro rfl)]
    cases purpose with
    | swap => exact ((discreet_refresh _ t).timeline t).epoch
    | activation o generation => exact ((discreet_prepare _ t o generation).timeline t).epoch
  refine (kept_perform (fun revision heq => hcall ⟨revision, heq⟩) ?_).imp_left And.left
  rintro q epoch purpose rfl rfl
  exact hattach ⟨q, purpose, rfl⟩

-- What somebody outside could do to a query.
def Move.isForeign : Move → Bool
  | .listen _ | .activateQuery _ | .deactivateQuery _ => true
  | _ => false

-- How it stands if nobody but timelines listens to the queries.
structure Unwatched (e : Engine) : Prop where
  sound : Sound e
  wired : Wired e
  accounted : Accounted e e.stack.tail
  staffed : ∀ t, Staffed e t
  unobserved : ∀ o, Unheard (.observer o) e
  prompt : Prompt e
  -- an activation that is to attach its timeline finds it as it left it
  fresh : ∀ t q o generation, .attach t q (e.timeline t).epoch (.activation o generation) ∈ e.stack →
    Unheard (.timeline t) e ∧ (e.timeline t).generation = generation
  settled : ∀ t, Settled e t

-- How it stands if nobody from outside has a hand in the queries.
structure Secluded (e : Engine) : Prop extends Unwatched e where
  -- all activations are those of timelines
  balanced : ∀ q, e.surplus q = 0

-- Only while no call is running can anything but a step happen.
theorem Unwatched.stack_eq_nil (h : Unwatched e) (hallows : e.allows m = true) (hstep : m ≠ .step) :
    e.stack = [] := by
  cases hs : e.stack with
  | nil => rfl
  | cons f rest =>
      have hobserver := isOpen_of_allows hallows hstep hs
      cases f with
      | observer o revision =>
          have hunheard := (h.unobserved o).stack _ (hs ▸ List.mem_cons_self)
          simp [Frame.addresses] at hunheard
      | activate | deactivate | announce | rounds | call | release | attach | emit | finish =>
          cases hobserver

-- While no call is running, an active timeline applies the filter of its query.
theorem Unwatched.current (h : Unwatched e) (hrest : e.stack = [])
    (hactive : (e.timeline t).phase.isActive = true) : e.isStale t = false := by
  cases hstale : e.isStale t with
  | false => rfl
  | true => exact absurd (h.settled t hactive hstale) (not_due h.wired hrest)

theorem Unwatched.step (h : Unwatched e) (hallows : e.allows .step = true) :
    Unwatched (e.after .step) := by
  obtain ⟨f, rest, hs, -, hafter⟩ := after_step hallows
  have hsound := h.sound.after hallows
  obtain ⟨hwired, hcomes⟩ := comes_after h.sound h.wired hallows
  have haccounted := (accounted_after h.wired h.accounted hallows).1
  -- an activation that is still to attach its timeline does so under the generation it knows
  have hfresh (t : TimelineId) (q : QueryId) (o : OperationId) (generation : Nat)
      (hmem : .attach t q ((e.after .step).timeline t).epoch (.activation o generation) ∈
        (e.after .step).stack) :
      Unheard (.timeline t) (e.after .step) ∧
        ((e.after .step).timeline t).generation = generation := by
    have hrest : .attach t q ((e.after .step).timeline t).epoch (.activation o generation) ∈
        rest := by
      have hactivation := mem_activations.mpr ⟨hmem, rfl⟩
      rw [hafter, activations_perform] at hactivation
      rw [hafter]
      exact (mem_activations.mp hactivation).1
    have hactive := (((hwired.bound t).attaching q _ _ hmem).2 rfl).1
    have hepoch : ((e.after .step).timeline t).epoch = (e.timeline t).epoch := by
      rw [hafter] at hactive ⊢
      refine (epoch_perform _ t f).resolve_right fun hstopped => ?_
      rw [hactive] at hstopped
      cases hstopped
    rw [hepoch] at hrest
    obtain ⟨hunheard, hg⟩ := h.fresh t q o generation (hs ▸ List.mem_cons_of_mem f hrest)
    have hcall (revision : Nat) : f ≠ .call (.timeline t) revision := by
      rintro rfl
      have haddresses := hunheard.stack _ (hs ▸ List.mem_cons_self)
      simp [Frame.addresses] at haddresses
    have hattach (q' : QueryId) (epoch : Nat) (purpose : Purpose)
        (hf : f = .attach t q' epoch purpose) : (e.timeline t).epoch ≠ epoch := by
      rintro rfl
      have hnone := (subscription_none_of_attach h.accounted (hf ▸ hs)).2
      have hattaches := List.countP_eq_zero.mp hnone _ hrest
      simp [Frame.attachesAt] at hattaches
    rw [hafter] at hactive ⊢
    refine ⟨hunheard.perform hs fun t' q' epoch purpose hf => ?_, ?_⟩
    · by_cases hne : t = t'
      · exact .inr (hne ▸ hattach q' epoch purpose (hne ▸ hf))
      · exact .inl fun heq => hne (Target.timeline.inj heq)
    · rcases kept_perform (e := { e with stack := rest }) hcall hattach with ⟨-, hkept⟩ | hstopped
      · exact hkept.trans hg
      · rw [hactive] at hstopped
        cases hstopped
  refine ⟨hsound, hwired, haccounted, staffs_after h.wired hallows h.staffed, ?_, ?_, hfresh, ?_⟩
  · intro o
    rw [hafter]
    refine (h.unobserved o).perform hs fun t q epoch purpose hf => .inl fun heq => ?_
    cases heq
  · rw [hafter]
    exact Prompt.perform (e := { e with stack := rest }) h.prompt f
  · intro t
    by_cases hsettled : Settled (e.after .step) t
    · exact hsettled
    · obtain ⟨-, hnot | ⟨-, hovertaken⟩⟩ := (hcomes t).unsettled hsettled
      · exact absurd (h.settled t) hnot
      · obtain ⟨q, o, generation, rest, hstack, hne, -⟩ := head_of_overtaken hovertaken
        exact absurd (h.fresh t q o generation (hstack ▸ List.mem_cons_self)).2 hne

-- What anything but a step and an answer from outside does to those who are unheard.
theorem tame_after (hcurrent : ∀ t, (e.timeline t).phase.isActive = true → e.isStale t = false)
    (hlisten : ∀ q, m ≠ .listen q) (hstep : m ≠ .step) (hleave : m ≠ .leaveObserver) :
    Tame e (e.after m) := by
  cases m with
  | step => exact absurd rfl hstep
  | leaveObserver => exact absurd rfl hleave
  | listen q => exact absurd rfl (hlisten q)
  | activateQuery q | deactivateQuery q => exact tame_push e (by simp [Frame.isCall])
  | addQuery expr source => exact tame_addQuery e expr source
  | addChannel capacity => exact tame_of_queries rfl rfl fun _ => id
  | addTimeline config storage stream query hasSink => exact tame_addTimeline e _ _ _ _ _
  | setExpression q expr =>
      exact (tame_modifyQuery e q (fun _ => id) rfl).trans (tame_push _ (by simp [Frame.isCall]))
  | setSource q text =>
      have hregistry : ((e.query q).replaceSource text).2.registry = (e.query q).registry := by
        unfold Query.replaceSource
        split <;> rfl
      have hquery : Tame e (e.modifyQuery q fun _ => ((e.query q).replaceSource text).2) :=
        tame_modifyQuery e q (fun s hmem => hregistry ▸ hmem) (congrArg Registry.round hregistry)
      exact hquery.trans (tame_push _ (by simp [Frame.isCall]))
  | compile q => exact tame_compile e q
  | unsubscribe q id => exact tame_dropSubscription e (some (q, id))
  | releaseObserver o => exact tame_release e (.observer o)
  | retain t => exact tame_retain e (.timeline t)
  | drop t => exact tame_release e (.timeline t)
  | deactivate t => exact (tame_hold e t).trans (tame_deactivate _ t)
  | invalidate t => exact (tame_hold e t).trans (tame_invalidate _ t)
  | dispose t => exact (tame_hold e t).trans (tame_dispose _ t)
  | setQuery t query => exact (tame_hold e t).trans (tame_setQuery _ t query)
  | accepts t item => exact tame_currentFilter e t
  | takeUnread t => exact tame_modifyTimeline e id
  | offer t item => exact tame_offer (hcurrent t) item
  | publish s item => exact (background_publish e s item).tame
  | closeStream s => exact (background_closeStream e s).tame
  | startActivation t hasRuntime => exact tame_startActivation e t hasRuntime
  | startPage t before limit => exact tame_startPage e t before limit
  | answer asker result =>
      cases asker with
      | operation o => exact tame_complete e o result
      | task k => exact tame_completeTask e k result
  | cancel o => exact tame_cancel e o
  | wake k => exact (background_wake e k).tame
  | nextTask => exact (background_nextTask e).tame
  | turn k => exact tame_turn hcurrent k

omit [Patterns] in
theorem outstanding_of_not_isForeign (h : m.isForeign = false) (q : QueryId) :
    outstanding q [m] = 0 := by
  cases m with
  | listen | activateQuery | deactivateQuery => cases h
  | _ => exact outstanding_single rfl rfl

-- Who begins to attach himself is not subscribed, and nobody else is told of anything.
theorem unheard_of_attach (hw : Wired e) (hrest : e.stack = []) (htame : Tame e e')
    (ha : Accounted e' e'.stack.tail) {purpose : Purpose}
    (hmem : .attach t q (e'.timeline t).epoch purpose ∈ e'.stack) : Unheard (.timeline t) e' := by
  refine ⟨fun q' s hs heq => ?_, fun q' hwaiting => ?_, fun f hf => ?_⟩
  · obtain ⟨id, target⟩ := s
    obtain rfl : target = .timeline t := heq
    have hsingle := ha.single t
    have hcount : 0 < e'.stack.countP (Frame.attachesAt t (e'.timeline t).epoch) :=
      List.countP_pos_iff.mpr ⟨_, hmem, by simp [Frame.attachesAt]⟩
    rw [ha.owned q' id t hs, Option.toList_some, List.length_singleton] at hsingle
    omega
  · have hnone := htame.waiting q' _ hwaiting
    rw [Registry.waiting, hw.round_eq_none hrest] at hnone
    cases hnone
  · obtain ⟨frames, hs, hframes⟩ := htame.stack
    rw [hs, hrest, List.append_nil] at hf
    exact addresses_of_not_isCall (hframes f hf) _

-- Only what begins to activate a timeline leaves it to be attached by an activation.
theorem began_of_attach (hallows : e.allows m = true) (hrest : e.stack = []) {epoch : Nat}
    {o : OperationId} {generation : Nat}
    (hmem : .attach t q epoch (.activation o generation) ∈ (e.after m).stack) :
    t < e.timelines.length ∧ generation = (e.timeline t).generation + 1 := by
  have hactivation : Frame.attach t q epoch (.activation o generation) ∈ (e.after m).activations :=
    mem_activations.mpr ⟨hmem, rfl⟩
  have hold : .attach t q epoch (.activation o generation) ∉ e.activations := by
    rw [activations, hrest]
    exact List.not_mem_nil
  cases hplain : m.isPlain with
  | true => exact absurd ((changes_after hallows hplain).activations ▸ hactivation) hold
  | false =>
      cases Move.special hplain with
      | step => simp [allows, Engine.step, hrest] at hallows
      | leaveObserver => simp [allows, hrest] at hallows
      | addTimeline config storage stream query hasSink =>
          have hstack : (e.after (.addTimeline config storage stream query hasSink)).stack =
              e.stack := (within_recompile _ _).stack
          rw [hstack, hrest] at hmem
          cases hmem
      | startActivation t' hasRuntime =>
          obtain ⟨q', epoch', o', heq⟩ := activations_startActivation hrest t' hasRuntime hactivation
          obtain ⟨rfl, -, -, hpurpose⟩ := Frame.attach.inj heq
          exact ⟨isAlive_of_allows hallows, (Purpose.activation.inj hpurpose).2⟩
      | startPage t' before limit =>
          exact absurd (activations_startPage e t' before limit ▸ hactivation) hold

omit [Patterns] in
theorem raise_le_one (incident : Option Incident) : Incident.raise incident ≤ 1 := by
  cases incident with
  | none => exact Nat.zero_le 1
  | some incident => cases incident <;> decide

-- What one move keeps.
theorem Unwatched.after (h : Unwatched e) (hallows : e.allows m = true)
    (hlisten : ∀ q, m ≠ .listen q) : Unwatched (e.after m) := by
  by_cases hstep : m = .step
  · exact hstep ▸ h.step (hstep ▸ hallows)
  have hrest := h.stack_eq_nil hallows hstep
  have hleave : m ≠ .leaveObserver := by
    rintro rfl
    simp [allows, hrest] at hallows
  have hsound := h.sound.after hallows
  obtain ⟨hwired, hcomes⟩ := comes_after h.sound h.wired hallows
  have haccounted := (accounted_after h.wired h.accounted hallows).1
  have htame := tame_after (fun t hactive => h.current hrest hactive) hlisten hstep hleave
  refine ⟨hsound, hwired, haccounted, staffs_after h.wired hallows h.staffed,
    fun o => htame.unheard (h.unobserved o), htame.prompt h.prompt, ?_, fun t => ?_⟩
  · intro t q o generation hmem
    refine ⟨unheard_of_attach h.wired hrest htame haccounted hmem, ?_⟩
    -- the activation has begun just now, and under the generation that it has raised
    obtain ⟨ht, rfl⟩ := began_of_attach hallows hrest hmem
    have hle := (hsound.window t q _ o _ hmem).2.2.1
    have hraise := raises_after ht hallows
    have hone := raise_le_one (e.incident? t m)
    unfold Raises at hraise
    omega
  · by_cases hsettled : Settled (e.after m) t
    · exact hsettled
    · obtain ⟨-, hnot | ⟨hnow, -⟩⟩ := (hcomes t).unsettled hsettled
      · exact absurd (h.settled t) hnot
      · exact absurd hnow hstep

theorem unwatched_init : Unwatched {} where
  sound := sound_init
  wired := wired_init
  accounted := accounted_init
  staffed := staffed_init
  unobserved _ := ⟨nofun, nofun, nofun⟩
  prompt _ := rfl
  fresh := nofun
  settled _ := settled_of_inactive rfl

-- What every run keeps in which only timelines listen to the queries.
theorem Unwatched.replay (h : Unwatched e) {moves : List Move} (hruns : e.Runs moves)
    (hlisten : ∀ q, .listen q ∉ moves) : Unwatched (e.replay moves) := by
  induction moves generalizing e with
  | nil => exact h
  | cons m moves ih =>
      refine ih (h.after hruns.1 ?_) hruns.2.2 fun q hmem => hlisten q (List.mem_cons_of_mem m hmem)
      rintro q rfl
      exact hlisten q List.mem_cons_self

theorem Secluded.after (h : Secluded e) (hallows : e.allows m = true)
    (hsecluded : m.isForeign = false) : Secluded (e.after m) := by
  have hlisten (q : QueryId) : m ≠ .listen q := by
    rintro rfl
    cases hsecluded
  refine ⟨h.toUnwatched.after hallows hlisten, fun q => ?_⟩
  have hsurplus := (accounted_after h.wired h.accounted hallows).2
  rw [hsurplus q (Int.le_of_eq (h.balanced q).symm), h.balanced q,
    outstanding_of_not_isForeign hsecluded]
  rfl

theorem secluded_init : Secluded {} where
  toUnwatched := unwatched_init
  balanced _ := rfl

-- What every run keeps in which nobody from outside has a hand in the queries.
theorem Secluded.replay (h : Secluded e) {moves : List Move} (hruns : e.Runs moves)
    (hsecluded : ∀ m ∈ moves, m.isForeign = false) : Secluded (e.replay moves) := by
  induction moves generalizing e with
  | nil => exact h
  | cons m moves ih =>
      exact ih (h.after hruns.1 (hsecluded m List.mem_cons_self)) hruns.2.2 fun m' hmem =>
        hsecluded m' (List.mem_cons_of_mem m hmem)

end Engine

end FilteredFeed
