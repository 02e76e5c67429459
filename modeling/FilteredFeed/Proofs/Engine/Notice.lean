import FilteredFeed.Proofs.Engine.Links

namespace FilteredFeed.Engine

open FilteredFeed.Feed FilteredFeed.Filter FilteredFeed.Listener FilteredFeed.Timeline

variable [Patterns]
variable {e e' e'' : Engine} {t : TimelineId} {q : QueryId} {d : Option TimelineId}

-- The calls that are running will bring a timeline to its query, or tell it of a change.
inductive Due (e : Engine) (t : TimelineId) : Prop where
  | attach {q : QueryId} {purpose : Purpose}
      (h : .attach t q (e.timeline t).epoch purpose ∈ e.stack)
  | call {revision : Nat} (h : .call (.timeline t) revision ∈ e.stack)
  | waiting {q : QueryId} (h : .timeline t ∈ (e.query q).registry.waiting)
  | announced {q : QueryId} {id : SubscriptionId} {revision : Nat}
      (hs : (e.timeline t).subscription = some (q, id)) (h : .announce q revision ∈ e.stack)
  | pending {q : QueryId} {id : SubscriptionId}
      (hs : (e.timeline t).subscription = some (q, id))
      (h : (e.query q).registry.pending.isSome = true)

-- An active timeline applies the filter of its query, or will be made to.
def Settled (e : Engine) (t : TimelineId) : Prop :=
  (e.timeline t).phase.isActive = true → e.isStale t = true → Due e t

-- From one engine to another a timeline goes over to a later generation and is settled, or goes on
-- under its generation, stale if it was, and settled if it was.
inductive Tends (e e' : Engine) (t : TimelineId) : Prop where
  | renewed (hg : (e.timeline t).generation < (e'.timeline t).generation) (hs : Settled e' t)
  | kept (hg : (e'.timeline t).generation = (e.timeline t).generation)
      (hstale : e.isStale t = true → e'.isStale t = true) (hs : Settled e t → Settled e' t)

-- The wiring stays, and every timeline tends to be settled.
def Advances (e e' : Engine) : Prop := Wired e → Wired e' ∧ ∀ t, Tends e e' t

theorem Tends.trans (h : Tends e e' t) (h' : Tends e' e'' t) : Tends e e'' t := by
  cases h' with
  | renewed hg' hs' =>
      cases h with
      | renewed hg hs => exact .renewed (Nat.lt_trans hg hg') hs'
      | kept hg hstale hs => exact .renewed (hg ▸ hg') hs'
  | kept hg' hstale' hs' =>
      cases h with
      | renewed hg hs => exact .renewed (hg' ▸ hg) (hs' hs)
      | kept hg hstale hs => exact .kept (hg'.trans hg) (hstale' ∘ hstale) (hs' ∘ hs)

theorem Advances.refl (e : Engine) : Advances e e := fun hw => ⟨hw, fun _ => .kept rfl id id⟩

theorem Advances.trans (h : Advances e e') (h' : Advances e' e'') : Advances e e'' := by
  intro hw
  obtain ⟨hw', ht⟩ := h hw
  obtain ⟨hw'', ht'⟩ := h' hw'
  exact ⟨hw'', fun t => (ht t).trans (ht' t)⟩

theorem settled_of_current (h : e.isStale t = false) : Settled e t := by
  intro hactive hstale
  rw [h] at hstale
  cases hstale

theorem settled_of_inactive (h : (e.timeline t).phase.isActive = false) : Settled e t := by
  intro hactive
  rw [h] at hactive
  cases hactive

theorem Ties.isStale (h : Ties d e e') (hb : Bound e t) (hd : d ≠ some t) :
    e'.isStale t = e.isStale t := by
  have hT := (h.spares t hd).timeline
  simp only [Engine.isStale, hT.query, hT.revision]
  cases hq : (e.timeline t).query with
  | none => rfl
  | some q => simp only [Option.map_some, h.revision q (hb.known q hq)]

theorem Links.due (h : Links d e e') (hd : d ≠ some t) (hdue : Due e t) : Due e' t := by
  have hs := h.spares t hd
  have hT := hs.timeline
  cases hdue with
  | attach hf => exact .attach ((hs.attach ..).mpr (hT.epoch ▸ hf))
  | call hf => exact .call (h.tells t hd _ hf (beq_self_eq_true t))
  | @waiting q hmem =>
      refine .waiting (q := q) ?_
      unfold Registry.waiting
      rw [h.round q]
      exact hmem
  | announced hsub hf => exact .announced (hT.subscription.trans hsub) (h.tells t hd _ hf rfl)
  | @pending q id hsub hp => exact .pending (hT.subscription.trans hsub) (h.pending q ▸ hp)

theorem Links.tends (h : Links d e e') (hb : Bound e t) (hd : d ≠ some t) : Tends e e' t := by
  have hT := (h.spares t hd).timeline
  have hstale := h.isStale hb hd
  refine .kept hT.generation (fun hs => hstale ▸ hs) ?_
  intro hsettled hactive hs
  exact h.due hd (hsettled (hT.active ▸ hactive) (hstale ▸ hs))

theorem Links.advances (h : Links none e e') : Advances e e' :=
  fun hw => ⟨hw.quiet h, fun t => h.tends (hw.bound t) nofun⟩

theorem Links.advances_on (h : Links (some t) e e') (hw : Wired e) (hb : Bound e' t)
    (ht : Tends e e' t) : Wired e' ∧ ∀ t', Tends e e' t' := by
  refine ⟨hw.links h hb, fun t' => ?_⟩
  by_cases heq : t = t'
  · exact heq ▸ ht
  · exact h.tends (hw.bound t') fun hsome => heq (Option.some.inj hsome)

-- A timeline applies the filter of its query.

structure Refreshes (applied : CompiledFilter × Option Nat) (T T' : Timeline) : Prop where
  active : T'.phase.isActive = T.phase.isActive
  query : T'.query = T.query
  epoch : T'.epoch = T.epoch
  subscription : T'.subscription = T.subscription
  holders : T'.holders = T.holders
  generation : T.generation ≤ T'.generation
  compiled : T'.compiled = applied.1
  revision : T'.compiledRevision = applied.2

theorem applied_current (hcoherent : ∀ q, (e.query q).Coherent)
    (hquery : ∀ q, (e.query q).Remembers (e'.query q))
    (hq : (e'.timeline t).query = (e.timeline t).query)
    (hcompiled : (e'.timeline t).compiled = (e.current t).1)
    (hrevision : (e'.timeline t).compiledRevision = (e.current t).2) :
    (∀ revision, (e'.timeline t).compiledRevision = some revision →
      ∃ q, (e'.timeline t).query = some q ∧ revision ≤ (e'.query q).revision ∧
        (revision = (e'.query q).revision →
          (e'.timeline t).compiled = (e'.query q).expr.compile)) ∧
    ((e'.timeline t).compiledRevision = none → (e'.timeline t).query = none) ∧
    e'.isStale t = false := by
  unfold isStale
  simp only [hq, hcompiled, hrevision]
  unfold current
  cases (e.timeline t).query with
  | none => simp
  | some q =>
      have hrev := (hquery q).revision
      refine ⟨fun revision hr => ⟨q, rfl, ?_, fun _ => ?_⟩, nofun, ?_⟩
      · exact Nat.le_of_eq ((Option.some.inj hr).symm.trans hrev.symm)
      · rw [(hquery q).expr]
        exact (hcoherent q).compile
      · simp [hrev]

theorem Bound.refresh (hb : Bound e t) (hcoherent : ∀ q, (e.query q).Coherent)
    (hw : Within t e e') (hT : Refreshes (e.current t) (e.timeline t) (e'.timeline t)) :
    Bound e' t := by
  have hregistry (q : QueryId) : e'.subscriptions q = e.subscriptions q := by
    unfold subscriptions
    rw [(hw.query q).registry]
  obtain ⟨happlied, hunapplied, -⟩ :=
    applied_current hcoherent hw.query hT.query hT.compiled hT.revision
  refine ⟨?_, ?_, ?_, ?_, ?_, ?_, happlied, hunapplied⟩
  · rw [hT.active, hT.holders]
    exact hb.held
  · rw [hT.query, hw.range]
    exact hb.known
  · rw [hT.subscription, hT.active, hT.query]
    intro q id hsub
    rw [hregistry]
    exact hb.subscribed q id hsub
  · rw [hT.active, hT.query, hT.subscription, hT.epoch, hw.stack]
    exact hb.reached
  · rw [hT.active, hT.query, hT.epoch, hw.stack]
    exact hb.attaching
  · rw [hT.active, hw.operations]
    intro o r hop
    obtain ⟨hle, hactive⟩ := hb.begun o r hop
    have hgeneration := hT.generation
    refine ⟨Nat.le_trans hle hgeneration, fun heq => hactive ?_⟩
    omega

theorem Refreshes.isStale (hcoherent : ∀ q, (e.query q).Coherent) (hw : Within t e e')
    (hT : Refreshes (e.current t) (e.timeline t) (e'.timeline t)) : e'.isStale t = false :=
  (applied_current hcoherent hw.query hT.query hT.compiled hT.revision).2.2

theorem isActive_renewed (T : Timeline) (applied : CompiledFilter × Option Nat) :
    (renewed T applied).phase.isActive = T.phase.isActive := by
  unfold renewed
  dsimp only
  cases hactive : T.phase.isActive with
  | true => rfl
  | false => exact hactive

theorem refreshes_invalidateQuietly (ht : t < e.timelines.length) :
    Refreshes (e.current t) (e.timeline t) ((e.invalidateQuietly t).2.timeline t) := by
  rw [timeline_invalidateQuietly ht]
  exact ⟨isActive_renewed (e.timeline t) (e.current t), rfl, rfl, rfl, rfl, Nat.le_succ _, rfl, rfl⟩

theorem advances_invalidateQuietly (e : Engine) (t : TimelineId) :
    Advances e (e.invalidateQuietly t).2 := by
  by_cases ht : t < e.timelines.length
  · intro hw
    have hwithin := within_invalidateQuietly e t
    have hT := refreshes_invalidateQuietly ht
    have hgeneration : (e.timeline t).generation <
        ((e.invalidateQuietly t).2.timeline t).generation := by
      rw [timeline_invalidateQuietly ht]
      exact Nat.lt_succ_self _
    exact hwithin.links.advances_on hw ((hw.bound t).refresh hw.coherent hwithin hT)
      (.renewed hgeneration (settled_of_current (hT.isStale hw.coherent hwithin)))
  · rw [invalidateQuietly_of_le (Nat.le_of_not_lt ht)]
    exact .refl e

theorem advances_invalidateNow (e : Engine) (t : TimelineId) : Advances e (e.invalidateNow t) :=
  (advances_invalidateQuietly e t).trans (links_emit ..).advances

-- A notification that makes a timeline do nothing is for one that is settled.
theorem onInvalidated_settled (e : Engine) (t : TimelineId) (revision : Nat) :
    e.onInvalidated t revision = e.invalidateNow t ∨
      Links none e (e.onInvalidated t revision) ∧ Settled e t := by
  unfold onInvalidated
  dsimp only
  split
  · rename_i hdisposed
    exact .inr ⟨.refl _ _, settled_of_inactive (by rw [hdisposed]; rfl)⟩
  · split
    · split
      · rename_i hcurrent
        have hsettled : Settled e t := settled_of_current (by simpa using hcurrent.2)
        split
        · exact .inr ⟨links_modifyTimeline e ⟨rfl, rfl, rfl, rfl, rfl, rfl, rfl, id⟩, hsettled⟩
        · exact .inr ⟨.refl _ _, hsettled⟩
      · exact .inl rfl
    · exact .inl rfl

theorem advances_refresh (e : Engine) (t : TimelineId) : Advances e (e.refresh t) := by
  unfold refresh
  split
  · exact advances_invalidateNow e t
  · exact .refl e

theorem advances_catchUp (e : Engine) (t : TimelineId) : Advances e (e.catchUp t) := by
  unfold catchUp
  split
  · refine ((advances_invalidateQuietly e t).trans ?_).trans (links_emit ..).advances
    exact (links_modifyTimeline _ ⟨rfl, rfl, rfl, rfl, rfl, rfl, rfl, id⟩).advances
  · exact .refl e

theorem ties_absorb (T : Timeline) (items : List Item) : T.SameTies (T.absorb items).1 := by
  obtain ⟨events, h⟩ := absorb_eq T items
  rw [h]
  exact ⟨rfl, rfl, rfl, rfl, rfl, rfl, rfl, id⟩

theorem ties_receive (T : Timeline) (item : Item) : T.SameTies (T.receive item) := by
  obtain ⟨events, unread, notified, h⟩ := receive_eq T item
  rw [h]
  exact ⟨rfl, rfl, rfl, rfl, rfl, rfl, rfl, id⟩

theorem advances_offer (e : Engine) (t : TimelineId) (item : Item) :
    Advances e (e.offer t item).2 := by
  rw [offer_eq]
  split
  · exact .refl e
  · split
    · exact (advances_catchUp e t).trans (links_modifyTimeline _ (ties_receive ..)).advances
    · exact advances_catchUp e t

-- A timeline is stopped.

-- A timeline that is not active, and that has moved on to a later generation and a later epoch, is
-- bound to nothing.
theorem Bound.stop (hb : Bound e t) (hstack : e'.stack = e.stack)
    (hoperations : e'.operations = e.operations)
    (hactive : (e'.timeline t).phase.isActive = false)
    (hsubscription : (e'.timeline t).subscription = none)
    (hgeneration : (e.timeline t).generation < (e'.timeline t).generation)
    (hepoch : (e.timeline t).epoch < (e'.timeline t).epoch)
    (hknown : ∀ q, (e'.timeline t).query = some q → q < e'.queries.length)
    (happlied : ∀ revision, (e'.timeline t).compiledRevision = some revision →
      ∃ q, (e'.timeline t).query = some q ∧ revision ≤ (e'.query q).revision ∧
        (revision = (e'.query q).revision →
          (e'.timeline t).compiled = (e'.query q).expr.compile))
    (hunapplied : (e'.timeline t).compiledRevision = none → (e'.timeline t).query = none) :
    Bound e' t ∧ Tends e e' t := by
  refine ⟨⟨?_, hknown, ?_, ?_, ?_, ?_, happlied, hunapplied⟩,
    .renewed hgeneration (settled_of_inactive hactive)⟩
  · intro hnot
    rw [hactive] at hnot
    cases hnot
  · intro q id hsub
    rw [hsubscription] at hsub
    cases hsub
  · intro q hnot
    rw [hactive] at hnot
    cases hnot
  · intro q epoch purpose hf
    rw [hstack] at hf
    have hle := (hb.attaching q epoch purpose hf).1
    refine ⟨Nat.le_of_lt (Nat.lt_of_le_of_lt hle hepoch), fun heq => ?_⟩
    omega
  · intro o r hop
    rw [hoperations] at hop
    have hle := (hb.begun o r hop).1
    refine ⟨Nat.le_of_lt (Nat.lt_of_le_of_lt hle hgeneration), fun heq => ?_⟩
    omega

-- Stopped or not, the timeline keeps the filter it applies.
theorem Bound.teardown (hb : Bound e t) (hstack : e'.stack = e.stack)
    (hoperations : e'.operations = e.operations) (hl : Links (some t) e e')
    (holders : Nat) (hT : e'.timeline t = { stopped (e.timeline t) with holders }) :
    Bound e' t ∧ Tends e e' t := by
  have hknown (q : QueryId) (hq : (e'.timeline t).query = some q) : q < e.queries.length := by
    rw [hT] at hq
    exact hb.known q hq
  refine hb.stop hstack hoperations ?_ ?_ ?_ ?_ ?_ ?_ ?_
  · rw [hT]
    rfl
  · rw [hT]
    rfl
  · rw [hT]
    exact Nat.lt_succ_self _
  · rw [hT]
    exact Nat.lt_succ_self _
  · exact fun q hq => Nat.lt_of_lt_of_le (hknown q hq) hl.range
  · intro revision hr
    rw [hT] at hr ⊢
    obtain ⟨q, hq, hle, heq⟩ := hb.applied revision hr
    have hlt := hb.known q hq
    rw [← hl.revision q hlt] at hle heq
    rw [← hl.expr q hlt] at heq
    exact ⟨q, hq, hle, heq⟩
  · intro hr
    rw [hT] at hr ⊢
    exact hb.unapplied hr

theorem lt_of_active (h : (e.timeline t).phase.isActive = true) : t < e.timelines.length := by
  apply Nat.lt_of_not_le
  intro hle
  rw [timeline_of_le hle] at h
  cases h

theorem advances_teardown (ht : t < e.timelines.length) : Advances e (e.teardown t).2 := by
  intro hw
  have ha := apart_teardown e t
  have hl := links_teardown hw.orderly (hw.own t)
  have hT : (e.teardown t).2.timeline t =
      { stopped (e.timeline t) with holders := (e.timeline t).holders } := timeline_teardown ht
  obtain ⟨hb, htends⟩ := (hw.bound t).teardown ha.stack ha.operations hl _ hT
  exact hl.advances_on hw hb htends

theorem links_deactivations (e : Engine) (query : Option QueryId) :
    Links none e (e.push (deactivations query)) :=
  links_push e (attach_notMem_deactivations query)

theorem isLastHold_lt (h : e.isLastHold t = true) : t < e.timelines.length := by
  apply Nat.lt_of_not_le
  intro hle
  simp [isLastHold, List.getElem?_eq_none hle] at h

theorem holders_of_not_isLastHold (h : e.isLastHold t = false) (hheld : 0 < (e.timeline t).holders)
    (ht : t < e.timelines.length) : 0 < (e.timeline t).holders - 1 := by
  have hne : (e.timeline t).holders ≠ 1 := by
    simpa [isLastHold, timeline, List.getElem?_eq_getElem ht] using h
  omega

theorem advances_release (e : Engine) (target : Target) : Advances e (e.release target) := by
  cases target with
  | observer o =>
      have hl : Links none e (e.release (.observer o)) :=
        links_of_timelines rfl rfl rfl fun _ _ => .refl _
      exact hl.advances
  | timeline t =>
      rw [release_eq]
      cases hlast : e.isLastHold t with
      | false =>
          by_cases ht : t < e.timelines.length
          · refine (links_modifyTimeline e ⟨rfl, rfl, rfl, rfl, rfl, rfl, rfl, ?_⟩).advances
            exact fun hheld => holders_of_not_isLastHold hlast hheld ht
          · have hsame : e.dropHold t = e := modifyTimeline_of_le (Nat.le_of_not_lt ht) _
            simp only [hsame]
            exact .refl e
      | true =>
          have ht := isLastHold_lt hlast
          have hdrop : Links (some t) e (e.dropHold t) := (within_modifyTimeline ..).links
          have hT : (e.dropHold t).timeline t =
              { e.timeline t with holders := (e.timeline t).holders - 1 } :=
            timeline_modifyTimeline_self ht _
          have hsize : t < (e.dropHold t).timelines.length := by
            simpa [dropHold, modifyTimeline] using ht
          have htorn : Advances e ((e.dropHold t).teardown t).2 := by
            intro hw
            have ha := apart_teardown (e.dropHold t) t
            have hown : ∀ q id, ((e.dropHold t).timeline t).subscription = some (q, id) →
                (id, .timeline t) ∈ (e.dropHold t).subscriptions q := by
              rw [hT]
              exact hw.own t
            have hl := hdrop.trans (links_teardown hw.orderly hown)
            have htimeline : ((e.dropHold t).teardown t).2.timeline t =
                { stopped (e.timeline t) with holders := (e.timeline t).holders - 1 } := by
              rw [timeline_teardown hsize, hT]
              rfl
            obtain ⟨hb, htends⟩ :=
              (hw.bound t).teardown ha.stack ha.operations hl _ htimeline
            exact hl.advances_on hw hb htends
          exact htorn.trans (links_deactivations ..).advances

theorem advances_close (e : Engine) (o : OperationId) {status : Status}
    (h : ∀ request, status ≠ .waiting request) : Advances e (e.close o status) := by
  unfold close
  split
  · exact (links_setStatus e o h).advances.trans (advances_release _ _)
  · exact .refl e

theorem advances_deactivate (e : Engine) (t : TimelineId) : Advances e (e.deactivate t) := by
  unfold deactivate
  split
  · rename_i hactive
    exact (advances_teardown (lt_of_active hactive)).trans (links_deactivations ..).advances
  · exact .refl e

theorem advances_invalidate (e : Engine) (t : TimelineId) : Advances e (e.invalidate t) := by
  unfold invalidate
  split
  · exact .refl e
  · exact advances_invalidateNow e t

theorem advances_dispose (ht : t < e.timelines.length) : Advances e (e.dispose t) := by
  rw [dispose_eq]
  split
  · exact .refl e
  · have hended : Advances e ((e.endWork t).modifyTimeline t ended) := by
      intro hw
      have ha := apart_endWork e t
      have hl : Links (some t) e ((e.endWork t).modifyTimeline t ended) :=
        (links_endWork hw.orderly (hw.own t)).trans (within_modifyTimeline ..).links
      have hT : ((e.endWork t).modifyTimeline t ended).timeline t = ended (e.timeline t) := by
        rw [timeline_modifyTimeline_self (ha.size ▸ ht), timeline_endWork]
      obtain ⟨hb, htends⟩ : Bound ((e.endWork t).modifyTimeline t ended) t ∧
          Tends e ((e.endWork t).modifyTimeline t ended) t := by
        have hstack : ((e.endWork t).modifyTimeline t ended).stack = e.stack := ha.stack
        apply (hw.bound t).stop hstack ha.operations <;> rw [hT]
        · rfl
        · rfl
        · exact Nat.lt_succ_self _
        · exact Nat.lt_succ_self _
        · exact nofun
        · exact nofun
        · exact fun _ => rfl
      exact hl.advances_on hw hb htends
    refine hended.trans (links_push _ ?_).advances
    intro t' q epoch purpose
    simp [attach_notMem_deactivations]

end FilteredFeed.Engine
