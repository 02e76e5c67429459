import FilteredFeed.Proofs.Engine.Sound
import FilteredFeed.Proofs.Listener.Registry

namespace FilteredFeed

open FilteredFeed.Feed FilteredFeed.Filter FilteredFeed.Listener FilteredFeed.Timeline

variable [Patterns]

namespace Timeline

-- What ties a timeline to its query, and to those who hold it, stays.
structure SameTies (T T' : Timeline) : Prop where
  active : T'.phase.isActive = T.phase.isActive
  query : T'.query = T.query
  epoch : T'.epoch = T.epoch
  subscription : T'.subscription = T.subscription
  generation : T'.generation = T.generation
  compiled : T'.compiled = T.compiled
  revision : T'.compiledRevision = T.compiledRevision
  held : 0 < T.holders → 0 < T'.holders

variable {T T' T'' : Timeline}

theorem SameTies.refl (T : Timeline) : T.SameTies T := ⟨rfl, rfl, rfl, rfl, rfl, rfl, rfl, id⟩

theorem SameTies.trans (h : T.SameTies T') (h' : T'.SameTies T'') : T.SameTies T'' :=
  ⟨h'.active.trans h.active, h'.query.trans h.query, h'.epoch.trans h.epoch,
    h'.subscription.trans h.subscription, h'.generation.trans h.generation,
    h'.compiled.trans h.compiled, h'.revision.trans h.revision, h'.held ∘ h.held⟩

end Timeline

namespace Engine

variable {e e' e'' : Engine} {t : TimelineId} {d : Option TimelineId}

def subscriptions (e : Engine) (q : QueryId) : List (SubscriptionId × Target) :=
  (e.query q).registry.subscriptions

-- A timeline, its subscription, its attachments under way and its activations that wait stay.
structure Spares (t : TimelineId) (e e' : Engine) : Prop where
  timeline : (e.timeline t).SameTies (e'.timeline t)
  kept : ∀ q id, (e.timeline t).subscription = some (q, id) →
    (id, .timeline t) ∈ e.subscriptions q → (id, .timeline t) ∈ e'.subscriptions q
  attach : ∀ q epoch purpose,
    .attach t q epoch purpose ∈ e'.stack ↔ .attach t q epoch purpose ∈ e.stack
  begun : ∀ (o : OperationId) r, e'.operations[o]? = some ⟨t, .activation, .waiting r⟩ →
    e.operations[o]? = some ⟨t, .activation, .waiting r⟩

-- All timelines but at most one are spared, and no query changes.
structure Ties (d : Option TimelineId) (e e' : Engine) : Prop where
  spares : ∀ t, d ≠ some t → Spares t e e'
  coherent : ∀ q, (e.query q).Coherent → (e'.query q).Coherent
  orderly : ∀ q, (e.query q).registry.Orderly → (e'.query q).registry.Orderly
  range : e.queries.length ≤ e'.queries.length
  revision : ∀ q < e.queries.length, (e'.query q).revision = (e.query q).revision
  expr : ∀ q < e.queries.length, (e'.query q).expr = (e.query q).expr

-- Whether a call that is to go on will tell a timeline of changes.
def Frame.tells (t : TimelineId) : Frame → Bool
  | .call (.timeline t') _ => t' == t
  | .announce _ _ => true
  | _ => false

-- Neither does anything happen to the notifications that are under way.
structure Links (d : Option TimelineId) (e e' : Engine) : Prop extends Ties d e e' where
  tells : ∀ t, d ≠ some t → ∀ f ∈ e.stack, f.tells t = true → f ∈ e'.stack
  rounds : ∀ q, .rounds q ∈ e.stack → .rounds q ∈ e'.stack
  round : ∀ q, (e'.query q).registry.round = (e.query q).registry.round
  pending : ∀ q, (e'.query q).registry.pending = (e.query q).registry.pending

theorem Spares.refl (t : TimelineId) (e : Engine) : Spares t e e :=
  ⟨.refl _, fun _ _ _ => id, fun _ _ _ => Iff.rfl, fun _ _ => id⟩

theorem Spares.trans (h : Spares t e e') (h' : Spares t e' e'') : Spares t e e'' where
  timeline := h.timeline.trans h'.timeline
  kept q id hs hmem := h'.kept q id (h.timeline.subscription.trans hs) (h.kept q id hs hmem)
  attach q epoch purpose := (h'.attach q epoch purpose).trans (h.attach q epoch purpose)
  begun o r := h.begun o r ∘ h'.begun o r

theorem Ties.trans (h : Ties d e e') (h' : Ties d e' e'') : Ties d e e'' where
  spares t ht := (h.spares t ht).trans (h'.spares t ht)
  coherent q := h'.coherent q ∘ h.coherent q
  orderly q := h'.orderly q ∘ h.orderly q
  range := Nat.le_trans h.range h'.range
  revision q hq := (h'.revision q (Nat.lt_of_lt_of_le hq h.range)).trans (h.revision q hq)
  expr q hq := (h'.expr q (Nat.lt_of_lt_of_le hq h.range)).trans (h.expr q hq)

theorem Links.refl (d : Option TimelineId) (e : Engine) : Links d e e :=
  ⟨⟨fun t _ => .refl t e, fun _ => id, fun _ => id, Nat.le_refl _, fun _ _ => rfl, fun _ _ => rfl⟩,
    fun _ _ _ hf _ => hf, fun _ => id, fun _ => rfl, fun _ => rfl⟩

theorem Links.trans (h : Links d e e') (h' : Links d e' e'') : Links d e e'' :=
  ⟨h.toTies.trans h'.toTies,
    fun t ht f hf htells => h'.tells t ht f (h.tells t ht f hf htells) htells,
    fun q => h'.rounds q ∘ h.rounds q, fun q => (h'.round q).trans (h.round q),
    fun q => (h'.pending q).trans (h.pending q)⟩

theorem Links.of_none (h : Links none e e') : Links d e e' where
  spares t _ := h.spares t nofun
  coherent := h.coherent
  orderly := h.orderly
  range := h.range
  revision := h.revision
  expr := h.expr
  tells t _ := h.tells t nofun
  rounds := h.rounds
  round := h.round
  pending := h.pending

-- How a timeline and its query are wired in every run.
structure Bound (e : Engine) (t : TimelineId) : Prop where
  -- an active timeline is held by somebody
  held : (e.timeline t).phase.isActive = true → 0 < (e.timeline t).holders
  known : ∀ q, (e.timeline t).query = some q → q < e.queries.length
  subscribed : ∀ q id, (e.timeline t).subscription = some (q, id) →
    (e.timeline t).phase.isActive = true ∧ (e.timeline t).query = some q ∧
      (id, .timeline t) ∈ e.subscriptions q
  -- an active timeline is subscribed to its query, or about to be
  reached : ∀ q, (e.timeline t).phase.isActive = true → (e.timeline t).query = some q →
    (e.timeline t).subscription.isSome = true ∨
      ∃ purpose, .attach t q (e.timeline t).epoch purpose ∈ e.stack
  -- an attachment of the present epoch is for an active timeline and its query
  attaching : ∀ q epoch purpose, .attach t q epoch purpose ∈ e.stack →
    epoch ≤ (e.timeline t).epoch ∧ (epoch = (e.timeline t).epoch →
      (e.timeline t).phase.isActive = true ∧ (e.timeline t).query = some q)
  begun : ∀ (o : OperationId) r, e.operations[o]? = some ⟨t, .activation, .waiting r⟩ →
    r.generation ≤ (e.timeline t).generation ∧
      (r.generation = (e.timeline t).generation → (e.timeline t).phase.isActive = true)
  -- a filter of the revision that the query has is that of its expression
  applied : ∀ revision, (e.timeline t).compiledRevision = some revision →
    ∃ q, (e.timeline t).query = some q ∧ revision ≤ (e.query q).revision ∧
      (revision = (e.query q).revision → (e.timeline t).compiled = (e.query q).expr.compile)
  unapplied : (e.timeline t).compiledRevision = none → (e.timeline t).query = none

structure Wired (e : Engine) : Prop where
  coherent : ∀ q, (e.query q).Coherent
  orderly : ∀ q, (e.query q).registry.Orderly
  -- rounds that are under way go on
  ringing : ∀ q, (e.query q).registry.round.isSome = true → .rounds q ∈ e.stack
  bound : ∀ t, Bound e t

theorem Bound.spared (hb : Bound e t) (h : Ties d e e') (ht : d ≠ some t) : Bound e' t := by
  have hs := h.spares t ht
  have hT := hs.timeline
  refine ⟨?_, ?_, ?_, ?_, ?_, ?_, ?_, ?_⟩
  · intro hactive
    exact hT.held (hb.held (hT.active ▸ hactive))
  · intro q hq
    exact Nat.lt_of_lt_of_le (hb.known q (hT.query ▸ hq)) h.range
  · intro q id hsub
    rw [hT.subscription] at hsub
    obtain ⟨hactive, hq, hmem⟩ := hb.subscribed q id hsub
    exact ⟨hT.active ▸ hactive, hT.query.trans hq, hs.kept q id hsub hmem⟩
  · intro q hactive hq
    rw [hT.subscription, hT.epoch]
    refine (hb.reached q (hT.active ▸ hactive) (hT.query ▸ hq)).imp_right ?_
    rintro ⟨purpose, hmem⟩
    exact ⟨purpose, (hs.attach ..).mpr hmem⟩
  · intro q epoch purpose hmem
    rw [hT.epoch, hT.active, hT.query]
    exact hb.attaching q epoch purpose ((hs.attach ..).mp hmem)
  · intro o r hop
    rw [hT.generation, hT.active]
    exact hb.begun o r (hs.begun o r hop)
  · intro revision hr
    obtain ⟨q, hq, hle, heq⟩ := hb.applied revision (hT.revision ▸ hr)
    have hlt := hb.known q hq
    refine ⟨q, hT.query.trans hq, ?_, ?_⟩
    · rw [h.revision q hlt]
      exact hle
    · rw [h.revision q hlt, h.expr q hlt, hT.compiled]
      exact heq
  · intro hr
    exact hT.query.trans (hb.unapplied (hT.revision ▸ hr))

theorem Wired.ringing_links (hw : Wired e) (h : Links d e e') :
    ∀ q, (e'.query q).registry.round.isSome = true → .rounds q ∈ e'.stack := by
  intro q hround
  rw [h.round] at hround
  exact h.rounds q (hw.ringing q hround)

-- What disturbs one timeline at most keeps the wiring, if it keeps that of this timeline.
theorem Wired.links (hw : Wired e) (h : Links (some t) e e') (hb : Bound e' t) : Wired e' where
  coherent q := h.coherent q (hw.coherent q)
  orderly q := h.orderly q (hw.orderly q)
  ringing := hw.ringing_links h
  bound t' := by
    by_cases ht : t = t'
    · exact ht ▸ hb
    · exact (hw.bound t').spared h.toTies fun heq => ht (Option.some.inj heq)

theorem Wired.quiet (hw : Wired e) (h : Links none e e') : Wired e' where
  coherent q := h.coherent q (hw.coherent q)
  orderly q := h.orderly q (hw.orderly q)
  ringing := hw.ringing_links h
  bound t := (hw.bound t).spared h.toTies nofun

end Engine

end FilteredFeed
