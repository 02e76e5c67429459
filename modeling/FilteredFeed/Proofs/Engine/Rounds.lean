import FilteredFeed.Proofs.Engine.Notice

namespace FilteredFeed.Engine

open FilteredFeed.Feed FilteredFeed.Filter FilteredFeed.Listener FilteredFeed.Timeline

variable [Patterns]
variable {e e' : Engine} {t : TimelineId} {q : QueryId} {rest frames : List Frame} {f : Frame}

-- A timeline that is active, or subscribed to a query, is held by somebody.

theorem Wired.alive_of_active (hw : Wired e) (hactive : (e.timeline t).phase.isActive = true) :
    e.isAlive (.timeline t) = true := by
  have hheld := (hw.bound t).held hactive
  simpa [isAlive, timeline, List.getElem?_eq_getElem (lt_of_active hactive)] using hheld

theorem Wired.alive (hw : Wired e) {id : SubscriptionId}
    (hsub : (e.timeline t).subscription = some (q, id)) :
    e.isAlive (.timeline t) = true ∧ (id, .timeline t) ∈ (e.query q).registry.subscriptions := by
  obtain ⟨hactive, -, hmem⟩ := (hw.bound t).subscribed q id hsub
  exact ⟨hw.alive_of_active hactive, hmem⟩

-- A frame is taken, the registry of its query goes on, and other frames come in its place.
theorem ties_registry (hw : Wired e) (hs : e.stack = f :: rest)
    (hf : ∀ t q epoch purpose, f ≠ .attach t q epoch purpose)
    (g : Registry Target → Registry Target)
    (horderly : (e.query q).registry.Orderly → (g (e.query q).registry).Orderly)
    (hkept : ∀ s ∈ (e.query q).registry.subscriptions, e.isAlive s.2 = true →
      s ∈ (g (e.query q).registry).subscriptions) :
    Ties none e (({ e with stack := rest } : Engine).modifyQuery q fun query =>
      { query with registry := g query.registry }) := by
  refine (ties_pop hs fun t _ => hf t).trans
    (ties_modifyQuery { e with stack := rest } q rfl rfl (fun h => h) horderly ?_)
  intro t _ id hsub hmem
  exact hkept _ hmem (hw.alive hsub).1

theorem frame_retainAll (e : Engine) (targets : List Target) :
    (e.retainAll targets).queries = e.queries ∧ (e.retainAll targets).stack = e.stack := by
  induction targets generalizing e with
  | nil => exact ⟨rfl, rfl⟩
  | cons target targets ih =>
      have hretain : (e.retain target).queries = e.queries ∧
          (e.retain target).stack = e.stack := by
        cases target <;> exact ⟨rfl, rfl⟩
      exact ⟨(ih _).1.trans hretain.1, (ih _).2.trans hretain.2⟩

-- A frame was taken, a registry has gone on, those it calls are held meanwhile, and other frames came
-- in place of the one.
def resumed (e : Engine) (q : QueryId) (g : Registry Target → Registry Target)
    (targets : List Target) (frames rest : List Frame) : Engine :=
  ((({ e with stack := rest } : Engine).modifyQuery q fun query =>
    { query with registry := g query.registry }).retainAll targets).push frames

theorem stack_resumed (e : Engine) (q : QueryId) (g : Registry Target → Registry Target)
    (targets : List Target) (frames rest : List Frame) :
    (e.resumed q g targets frames rest).stack = frames ++ rest :=
  congrArg (frames ++ ·) (frame_retainAll _ targets).2

-- The registry of the query has gone on, if there is such a query.
theorem query_resumed (e : Engine) (q q' : QueryId) (g : Registry Target → Registry Target)
    (targets : List Target) (frames rest : List Frame) :
    q' ≠ q ∧ (e.resumed q g targets frames rest).query q' = e.query q' ∨
      q' = q ∧ ((e.resumed q g targets frames rest).query q').registry =
        g (e.query q').registry ∨
      q' = q ∧ (e.resumed q g targets frames rest).query q' = e.query q' ∧
        (e.query q').registry = {} := by
  have hretained : (e.resumed q g targets frames rest).query q' =
      (({ e with stack := rest } : Engine).modifyQuery q fun query =>
        { query with registry := g query.registry }).query q' := by
    have hqueries : (e.resumed q g targets frames rest).queries = _ :=
      (frame_retainAll _ targets).1
    unfold query
    rw [hqueries]
  rw [hretained]
  by_cases h : q' = q
  · subst h
    by_cases hq : q' < e.queries.length
    · refine .inr (.inl ⟨rfl, ?_⟩)
      rw [query_modifyQuery_self (e := { e with stack := rest }) hq]
      rfl
    · have hle := Nat.le_of_not_lt hq
      refine .inr (.inr ⟨rfl, ?_, ?_⟩)
      · simp [modifyQuery, query, List.modify_eq_self hle]
      · simp [query, List.getElem?_eq_none hle, default]
  · exact .inl ⟨h, query_modifyQuery_ne h _⟩

-- What a notification has to do so that nobody is forgotten.
structure Notifies (e : Engine) (q : QueryId) (g : Registry Target → Registry Target) (f : Frame)
    (frames rest : List Frame) : Prop where
  orderly : (e.query q).registry.Orderly → (g (e.query q).registry).Orderly
  kept : ∀ s ∈ (e.query q).registry.subscriptions, e.isAlive s.2 = true →
    s ∈ (g (e.query q).registry).subscriptions
  -- who waits is called, or goes on waiting
  waiting : ∀ target ∈ (e.query q).registry.waiting,
    (∃ revision, .call target revision ∈ frames) ∨ target ∈ (g (e.query q).registry).waiting
  -- who is to be told is called in a round, or in a further one
  told : ((e.query q).registry.pending.isSome = true ∨ ∃ revision, f = .announce q revision) →
    ∀ s ∈ (e.query q).registry.subscriptions, e.isAlive s.2 = true →
      (g (e.query q).registry).pending.isSome = true ∨ s.2 ∈ (g (e.query q).registry).waiting
  ringing : (g (e.query q).registry).round.isSome = true → .rounds q ∈ frames ++ rest
  unattached : ∀ t q epoch purpose, .attach t q epoch purpose ∉ f :: frames
  uncalled : ∀ target revision, f ≠ .call target revision
  others : ∀ q' revision, q' ≠ q → f ≠ .announce q' revision ∧ f ≠ .rounds q'

section Notifies

variable {g : Registry Target → Registry Target}

theorem Notifies.ties (h : Notifies e q g f frames rest) (hw : Wired e)
    (hs : e.stack = f :: rest) (targets : List Target) :
    Ties none e (e.resumed q g targets frames rest) := by
  have hregistry := ties_registry hw hs
    (fun t q epoch purpose heq => h.unattached t q epoch purpose (heq ▸ List.mem_cons_self))
    g h.orderly h.kept
  refine (hregistry.trans (links_retainAll _ targets).toTies).trans (links_push _ ?_).toTies
  exact fun t q epoch purpose hmem => h.unattached t q epoch purpose (List.mem_cons_of_mem _ hmem)

theorem mem_resumed (hs : e.stack = f :: rest) (targets : List Target) {f' : Frame}
    (hf : f' ∈ e.stack) (hne : f' ≠ f) : f' ∈ (e.resumed q g targets frames rest).stack := by
  rw [stack_resumed]
  exact List.mem_append_right _ (mem_rest hs hf hne)

theorem Notifies.wired (h : Notifies e q g f frames rest) (hw : Wired e)
    (hs : e.stack = f :: rest) (targets : List Target) :
    Wired (e.resumed q g targets frames rest) := by
  have hties := h.ties hw hs targets
  refine ⟨fun q' => hties.coherent q' (hw.coherent q'), fun q' => hties.orderly q' (hw.orderly q'),
    ?_, fun t => (hw.bound t).spared hties nofun⟩
  intro q' hround
  rcases query_resumed e q q' g targets frames rest with ⟨hne, heq⟩ | ⟨rfl, heq⟩ |
    ⟨rfl, heq, hempty⟩
  · rw [heq] at hround
    exact mem_resumed hs targets (hw.ringing q' hround) (Ne.symm (h.others q' 0 hne).2)
  · rw [heq] at hround
    rw [stack_resumed]
    exact h.ringing hround
  · rw [heq, hempty] at hround
    cases hround

-- Who is subscribed and is to be told of a change will be.
theorem Notifies.due_told (h : Notifies e q g f frames rest) (hw : Wired e)
    (hs : e.stack = f :: rest) (targets : List Target) {q' : QueryId} {id : SubscriptionId}
    (hsub : (e.timeline t).subscription = some (q', id))
    (hcause : (e.query q').registry.pending.isSome = true ∨
      q' = q ∧ ∃ revision, f = .announce q revision) :
    Due (e.resumed q g targets frames rest) t := by
  have hT := ((h.ties hw hs targets).spares t nofun).timeline
  obtain ⟨halive, hmem⟩ := hw.alive hsub
  rcases query_resumed e q q' g targets frames rest with ⟨hne, heq⟩ | ⟨rfl, heq⟩ |
    ⟨rfl, -, hempty⟩
  · rcases hcause with hp | ⟨hsame, -⟩
    · exact .pending (hT.subscription.trans hsub) (heq ▸ hp)
    · exact absurd hsame hne
  · rcases h.told (hcause.imp_right And.right) _ hmem halive with hp | hwait
    · exact .pending (hT.subscription.trans hsub) (heq ▸ hp)
    · exact .waiting (q := q') (heq ▸ hwait)
  · rw [hempty] at hmem
    cases hmem

theorem Notifies.due (h : Notifies e q g f frames rest) (hw : Wired e)
    (hs : e.stack = f :: rest) (targets : List Target) (hdue : Due e t) :
    Due (e.resumed q g targets frames rest) t := by
  have hspares := (h.ties hw hs targets).spares t nofun
  have hT := hspares.timeline
  cases hdue with
  | attach hf => exact .attach ((hspares.attach ..).mpr (hT.epoch ▸ hf))
  | call hf => exact .call (mem_resumed hs targets hf (Ne.symm (h.uncalled _ _)))
  | @waiting q' hmem =>
      rcases query_resumed e q q' g targets frames rest with ⟨-, heq⟩ | ⟨rfl, heq⟩ | ⟨rfl, heq, -⟩
      · exact .waiting (q := q') (heq ▸ hmem)
      · rcases h.waiting _ hmem with ⟨revision, hcall⟩ | hwait
        · have hmem' : .call (.timeline t) revision ∈
              (e.resumed q' g targets frames rest).stack := by
            rw [stack_resumed]
            exact List.mem_append_left _ hcall
          exact .call hmem'
        · exact .waiting (q := q') (heq ▸ hwait)
      · exact .waiting (q := q') (heq ▸ hmem)
  | @announced q' id revision hsub hf =>
      by_cases hnow : f = .announce q' revision
      · by_cases hq : q' = q
        · subst hq
          exact h.due_told hw hs targets hsub (.inr ⟨rfl, revision, hnow⟩)
        · exact absurd hnow (h.others q' revision hq).1
      · exact .announced (hT.subscription.trans hsub)
          (mem_resumed hs targets hf (Ne.symm hnow))
  | pending hsub hp => exact h.due_told hw hs targets hsub (.inl hp)

theorem Notifies.advances (h : Notifies e q g f frames rest) (hw : Wired e)
    (hs : e.stack = f :: rest) (targets : List Target) :
    Wired (e.resumed q g targets frames rest) ∧
      ∀ t, Tends e (e.resumed q g targets frames rest) t := by
  refine ⟨h.wired hw hs targets, fun t => ?_⟩
  have hties := h.ties hw hs targets
  have hT := (hties.spares t nofun).timeline
  have hstale := hties.isStale (hw.bound t) nofun
  refine .kept hT.generation (fun hst => hstale ▸ hst) ?_
  intro hsettled hactive hst
  exact h.due hw hs targets (hsettled (hT.active ▸ hactive) (hstale ▸ hst))

end Notifies

-- A change is announced: a round starts, or is put off.
theorem advances_announce {revision : Nat} (hs : e.stack = .announce q revision :: rest) :
    Advances e (({ e with stack := rest } : Engine).announce q revision) := by
  intro hw
  have hnotifies (frames : List Frame)
      (hring : (e.query q).registry.round.isSome = true ∨ .rounds q ∈ frames)
      (hframes : ∀ t q epoch purpose, .attach t q epoch purpose ∉ frames) :
      Notifies e q (·.request e.isAlive revision) (.announce q revision) frames rest := by
    refine ⟨fun h => h.request _ _, fun s hmem halive => Registry.mem_request hmem halive,
      fun target hmem => .inr (Registry.waiting_request hmem), fun _ s hmem halive =>
      (Registry.told_request hmem halive).symm, fun _ => ?_, ?_, fun _ _ => nofun, ?_⟩
    · rcases hring with hround | hmem
      · exact List.mem_append_right _ (mem_rest hs (hw.ringing q hround) nofun)
      · exact List.mem_append_left _ hmem
    · intro t q' epoch purpose hmem
      rcases List.mem_cons.mp hmem with heq | hmem
      · cases heq
      · exact hframes t q' epoch purpose hmem
    · intro q' revision' hne
      refine ⟨fun heq => hne (Frame.announce.inj heq).1.symm, nofun⟩
  unfold announce
  dsimp only
  split
  · rename_i hrunning
    exact (hnotifies [] (.inl hrunning) (by simp)).advances hw hs []
  · exact (hnotifies [.rounds q] (.inr (by simp)) (by simp)).advances hw hs _

-- A notification goes on.
theorem advances_continueRounds (hs : e.stack = .rounds q :: rest) :
    Advances e (({ e with stack := rest } : Engine).continueRounds q) := by
  intro hw
  have hnotifies (frames : List Frame)
      (hcall : ∀ target revision,
        ((e.query q).registry.advance e.isAlive).1 = .call target revision →
          .call target revision ∈ frames)
      (hring : ((e.query q).registry.advance e.isAlive).1 = .done ∨ .rounds q ∈ frames)
      (hframes : ∀ t q epoch purpose, .attach t q epoch purpose ∉ frames) :
      Notifies e q (fun r => (r.advance e.isAlive).2) (.rounds q) frames rest := by
    refine ⟨fun h => h.advance _, fun s hmem halive => Registry.mem_advance hmem halive, ?_, ?_, ?_,
      ?_, fun _ _ => nofun, ?_⟩
    · intro target hmem
      refine (Registry.waiting_advance hmem).imp_left ?_
      rintro ⟨revision, hnext⟩
      exact ⟨revision, hcall target revision hnext⟩
    · rintro (hp | ⟨revision, heq⟩) s hmem halive
      · exact Registry.pending_advance (hw.orderly q) hp hmem halive
      · cases heq
    · intro hround
      rcases hring with hdone | hmem
      · rw [Registry.round_advance hdone] at hround
        cases hround
      · exact List.mem_append_left _ hmem
    · intro t q' epoch purpose hmem
      rcases List.mem_cons.mp hmem with heq | hmem
      · cases heq
      · exact hframes t q' epoch purpose hmem
    · intro q' revision' hne
      refine ⟨nofun, fun heq => hne (Frame.rounds.inj heq).symm⟩
  have heq : ({ e with stack := rest } : Engine).modifyQuery q (fun query =>
        { query with registry := ((e.query q).registry.advance e.isAlive).2 }) =
      ({ e with stack := rest } : Engine).modifyQuery q fun query =>
        { query with registry := (query.registry.advance e.isAlive).2 } :=
    modifyQuery_congr rfl
  unfold continueRounds
  dsimp only
  have halive : ({ e with stack := rest } : Engine).isAlive = e.isAlive := rfl
  have hquery : ({ e with stack := rest } : Engine).query q = e.query q := rfl
  rw [halive, hquery, heq]
  split
  · rename_i listener revision hnext
    refine (hnotifies [.call listener revision, .release listener, .rounds q] ?_ (.inr (by simp))
      (by simp)).advances hw hs []
    intro target revision' hcall
    obtain ⟨rfl, rfl⟩ := Registry.Next.call.inj (hnext.symm.trans hcall)
    exact List.mem_cons_self
  · rename_i listeners hnext
    refine (hnotifies [.rounds q] ?_ (.inr (by simp)) (by simp)).advances hw hs listeners
    intro target revision hcall
    rw [hnext] at hcall
    cases hcall
  · rename_i hnext
    refine (hnotifies [] ?_ (.inl hnext) (by simp)).advances hw hs []
    intro target revision hcall
    rw [hnext] at hcall
    cases hcall

end FilteredFeed.Engine
