import FilteredFeed.Proofs.Engine.Run
import FilteredFeed.Proofs.Engine.Sections
import FilteredFeed.Proofs.Timeline.Buffer

namespace FilteredFeed

open FilteredFeed.Feed FilteredFeed.Filter FilteredFeed.Listener FilteredFeed.Timeline
open FilteredFeed.Scenario (Asker)

variable [Patterns]

namespace Timeline

variable {arrives : Item → Prop} {T T' T'' : Timeline}

-- A timeline goes on under its generation. Items come in that its filter accepts, or that arrive
-- from storage.
structure Keeps (arrives : Item → Prop) (T T' : Timeline) : Prop where
  generation : T'.generation = T.generation
  compiled : T'.compiled = T.compiled
  buffer : ∀ item ∈ T'.buffer.items,
    item ∈ T.buffer.items ∨ arrives item ∨ T.compiled.accepts item = true

-- A timeline goes over to a later generation. Items only stay if the filter does.
structure Renews (arrives : Item → Prop) (T T' : Timeline) : Prop where
  generation : T.generation < T'.generation
  buffer : ∀ item ∈ T'.buffer.items,
    (item ∈ T.buffer.items ∨ arrives item) ∧ T'.compiled = T.compiled ∨
      T'.compiled.accepts item = true

theorem Keeps.refl (arrives : Item → Prop) (T : Timeline) : T.Keeps arrives T :=
  ⟨rfl, rfl, fun _ h => .inl h⟩

theorem Keeps.trans (h : T.Keeps arrives T') (h' : T'.Keeps arrives T'') : T.Keeps arrives T'' where
  generation := h'.generation.trans h.generation
  compiled := h'.compiled.trans h.compiled
  buffer item hitem := by
    rcases h'.buffer item hitem with hitem | hitem | hitem
    · exact h.buffer item hitem
    · exact .inr (.inl hitem)
    · exact .inr (.inr (h.compiled ▸ hitem))

theorem Keeps.renews (h : T.Keeps arrives T') (h' : T'.Renews arrives T'') :
    T.Renews arrives T'' where
  generation := h.generation ▸ h'.generation
  buffer item hitem := by
    rcases h'.buffer item hitem with ⟨hitem | hitem, hc⟩ | hitem
    · rcases h.buffer item hitem with hitem | hitem | hitem
      · exact .inl ⟨.inl hitem, hc.trans h.compiled⟩
      · exact .inl ⟨.inr hitem, hc.trans h.compiled⟩
      · exact .inr (by rw [hc, h.compiled]; exact hitem)
    · exact .inl ⟨.inr hitem, hc.trans h.compiled⟩
    · exact .inr hitem

-- Nothing arrives.
abbrev Nothing : Item → Prop := fun _ => False

theorem Keeps.of_nothing (h : T.Keeps Nothing T') : T.Keeps arrives T' where
  generation := h.generation
  compiled := h.compiled
  buffer item hitem := by
    rcases h.buffer item hitem with hitem | hitem | hitem
    · exact .inl hitem
    · exact hitem.elim
    · exact .inr (.inr hitem)

theorem Renews.keeps (h : T.Renews arrives T') (h' : T'.Keeps Nothing T'') :
    T.Renews arrives T'' where
  generation := h'.generation ▸ h.generation
  buffer item hitem := by
    rw [h'.compiled]
    rcases h'.buffer item hitem with hitem | hitem | hitem
    · exact h.buffer item hitem
    · exact hitem.elim
    · exact .inr hitem

theorem keeps_emit (arrives : Item → Prop) (T : Timeline) (delta : Delta) :
    T.Keeps arrives (T.emit delta) := by
  obtain ⟨events, h⟩ := emit_eq T delta
  exact h ▸ ⟨rfl, rfl, fun _ h => .inl h⟩

theorem keeps_absorb (T : Timeline) {items : List Item} (h : ∀ item ∈ items, arrives item) :
    T.Keeps arrives (T.absorb items).1 := by
  obtain ⟨events, heq⟩ := absorb_eq T items
  rw [heq]
  refine ⟨rfl, rfl, fun item hitem => ?_⟩
  rcases Buffer.mem_merge hitem with hitem | hitem
  · exact .inl hitem
  · exact .inr (.inl (h item hitem))

theorem keeps_receive (arrives : Item → Prop) (T : Timeline) {item : Item}
    (h : T.compiled.accepts item = true) : T.Keeps arrives (T.receive item) := by
  obtain ⟨events, unread, notified, heq⟩ := receive_eq T item
  rw [heq]
  refine ⟨rfl, rfl, fun x hx => ?_⟩
  have hx : x ∈ (T.buffer.merge [item]).1.items := hx
  rcases Buffer.mem_merge hx with hx | hx
  · exact .inl hx
  · exact .inr (.inr (by simpa [List.mem_singleton.mp hx] using h))

end Timeline

namespace Engine

variable {arrives : TimelineId → Item → Prop} {e e' e'' : Engine} {t : TimelineId}

abbrev Nothing : TimelineId → Item → Prop := fun _ => Timeline.Nothing

-- What an operation that waits, or a task, asks of storage, and for which timeline.
def asks (e : Engine) : Asker → Option (TimelineId × FetchRequest)
  | .operation o =>
      match e.operations[o]? with
      | some ⟨t, _, .waiting request⟩ => some (t, request)
      | _ => none
  | .task k =>
      match e.jobs[k]? with
      | some (.refetch t request) => some (t, request)
      | _ => none

def owner (e : Engine) (o : OperationId) : Option TimelineId :=
  e.operations[o]?.map Operation.timeline

def Frame.isActivation : Frame → Bool
  | .attach _ _ _ (.activation _ _) => true
  | _ => false

omit [Patterns] in
theorem Frame.attach_of_isActivation {f : Frame} (h : f.isActivation = true) :
    ∃ t q epoch o generation, f = .attach t q epoch (.activation o generation) := by
  unfold isActivation at h
  split at h
  · exact ⟨_, _, _, _, _, rfl⟩
  · cases h

-- The activations that wait for the listeners of their query.
def activations (e : Engine) : List Frame := e.stack.filter Frame.isActivation

-- A request is of the generation of its timeline, and asks for what the filter in use accepts.
def IsCurrent (e : Engine) (t : TimelineId) (request : FetchRequest) : Prop :=
  request.generation = (e.timeline t).generation ∧
    request.text = (e.timeline t).compiled.queryText

-- Nothing happens that concerns requests: every timeline goes on under its generation, and storage
-- is asked for nothing new.
structure Calm (arrives : TimelineId → Item → Prop) (e e' : Engine) : Prop where
  stack : e'.stack = [] → e.stack = []
  activations : e'.activations = e.activations
  size : e'.timelines.length = e.timelines.length
  owner : ∀ o t, e.owner o = some t → e'.owner o = some t
  coherent : ∀ q, (e.query q).Coherent → (e'.query q).Coherent
  timeline : ∀ t, (e.timeline t).Keeps (arrives t) (e'.timeline t)
  asks : ∀ a t r, e'.asks a = some (t, r) → e.asks a = some (t, r)

-- Some timelines go over to a later generation. What storage is asked for is current, and is
-- asked for under a new generation or while no call is running.
structure Changes (arrives : TimelineId → Item → Prop) (e e' : Engine) : Prop where
  activations : e'.activations = e.activations
  size : e'.timelines.length = e.timelines.length
  owner : ∀ o t, e.owner o = some t → e'.owner o = some t
  coherent : ∀ q, (e.query q).Coherent → (e'.query q).Coherent
  timeline : ∀ t, (e.timeline t).Keeps (arrives t) (e'.timeline t) ∨
    (e.timeline t).Renews (arrives t) (e'.timeline t)
  origin : (∀ q, (e.query q).Coherent) → ∀ t,
    (e'.timeline t).compiled = (e.timeline t).compiled ∨
      ∃ expr : Expr, (e'.timeline t).compiled = expr.compile
  asks : ∀ a t r, e'.asks a = some (t, r) → e.asks a = some (t, r) ∨
    e'.IsCurrent t r ∧ t < e.timelines.length ∧
      (e.stack = [] ∨ (e.timeline t).generation < (e'.timeline t).generation)

namespace Calm

theorem refl (arrives : TimelineId → Item → Prop) (e : Engine) : Calm arrives e e :=
  ⟨id, rfl, rfl, fun _ _ => id, fun _ => id, fun _ => .refl _ _, fun _ _ _ => id⟩

theorem trans (h : Calm arrives e e') (h' : Calm arrives e' e'') : Calm arrives e e'' where
  stack := h.stack ∘ h'.stack
  activations := h'.activations.trans h.activations
  size := h'.size.trans h.size
  owner o t := h'.owner o t ∘ h.owner o t
  coherent q := h'.coherent q ∘ h.coherent q
  timeline t := (h.timeline t).trans (h'.timeline t)
  asks a t r := h.asks a t r ∘ h'.asks a t r

theorem changes (h : Calm arrives e e') : Changes arrives e e' where
  activations := h.activations
  size := h.size
  owner := h.owner
  coherent := h.coherent
  timeline t := .inl (h.timeline t)
  origin _ t := .inl (h.timeline t).compiled
  asks a t r hr := .inl (h.asks a t r hr)

theorem trans_changes (h : Calm arrives e e') (h' : Changes arrives e' e'') : Changes arrives e e'' where
  activations := h'.activations.trans h.activations
  size := h'.size.trans h.size
  owner o t := h'.owner o t ∘ h.owner o t
  coherent q := h'.coherent q ∘ h.coherent q
  timeline t := by
    rcases h'.timeline t with ht | ht
    · exact .inl ((h.timeline t).trans ht)
    · exact .inr ((h.timeline t).renews ht)
  origin hq t := by
    rw [← (h.timeline t).compiled]
    exact h'.origin (fun q => h.coherent q (hq q)) t
  asks a t r hr := by
    rcases h'.asks a t r hr with hr | ⟨hr, ht, hs⟩
    · exact .inl (h.asks a t r hr)
    · refine .inr ⟨hr, h.size ▸ ht, ?_⟩
      rw [← (h.timeline t).generation]
      exact hs.imp_left h.stack

end Calm

-- What comes after a new generation brings no items of a request.
theorem Changes.trans_calm (h : Changes arrives e e') (h' : Calm Nothing e' e'') :
    Changes arrives e e'' where
  activations := h'.activations.trans h.activations
  size := h'.size.trans h.size
  owner o t := h'.owner o t ∘ h.owner o t
  coherent q := h'.coherent q ∘ h.coherent q
  timeline t := by
    rcases h.timeline t with ht | ht
    · exact .inl (ht.trans (h'.timeline t).of_nothing)
    · exact .inr (ht.keeps (h'.timeline t))
  origin hq t := by
    rw [(h'.timeline t).compiled]
    exact h.origin hq t
  asks a t r hr := by
    have hk := h'.timeline t
    rcases h.asks a t r (h'.asks a t r hr) with hr | ⟨⟨hg, hx⟩, ht, hs⟩
    · exact .inl hr
    · refine .inr ⟨⟨?_, ?_⟩, ht, ?_⟩
      · rw [hk.generation, hg]
      · rw [hk.compiled, hx]
      · rw [hk.generation]
        exact hs

theorem asks_congr (ho : e'.operations = e.operations) (hj : e'.jobs = e.jobs) (a : Asker) :
    e'.asks a = e.asks a := by
  cases a with
  | operation o => simp only [Engine.asks, ho]
  | task k => simp only [Engine.asks, hj]

theorem asks_of_job {k : TaskId} {r : FetchRequest} (h : e.jobs[k]? = some (.refetch t r)) :
    e.asks (.task k) = some (t, r) := by
  simp only [Engine.asks, h]

theorem asks_of_task {k : TaskId} {r : FetchRequest} {started aborted finished : Bool}
    (h : e.tasks[k]? = some ⟨.refetch t r, started, aborted, finished⟩) :
    e.asks (.task k) = some (t, r) :=
  asks_of_job (by simp [jobs, h])

theorem owner_congr (ho : e'.operations = e.operations) (o : OperationId) :
    e'.owner o = e.owner o := by
  simp only [Engine.owner, ho]

theorem activations_push (e : Engine) {frames : List Frame}
    (h : frames.filter Frame.isActivation = []) : (e.push frames).activations = e.activations := by
  simp [push, Engine.activations, h]

-- Things that are calm.

theorem Background.calm (h : Background e e') : Calm arrives e e' where
  stack := by rw [h.stack]; exact id
  activations := by rw [Engine.activations, h.stack]; rfl
  size := by rw [h.timelines]
  owner o t := by rw [owner_congr h.operations]; exact id
  coherent q := by rw [h.query]; exact id
  timeline t := by rw [h.timeline]; exact .refl _ _
  asks a t r := by rw [asks_congr h.operations h.jobs]; exact id

theorem calm_push (e : Engine) {frames : List Frame} (h : frames.filter Frame.isActivation = []) :
    Calm arrives e (e.push frames) where
  stack hs := (List.append_eq_nil_iff.mp hs).2
  activations := activations_push e h
  size := rfl
  owner _ _ := id
  coherent _ := id
  timeline _ := .refl _ _
  asks _ _ _ := id

theorem calm_modifyTimeline (e : Engine) {f : Timeline → Timeline}
    (h : (e.timeline t).Keeps (arrives t) (f (e.timeline t))) :
    Calm arrives e (e.modifyTimeline t f) where
  stack := id
  activations := rfl
  size := by simp [modifyTimeline]
  owner _ _ := id
  coherent _ := id
  timeline t' := by
    rcases timeline_modifyTimeline e t t' f with ht | ⟨rfl, ht⟩
    · exact ht ▸ .refl _ _
    · exact ht ▸ h
  asks _ _ _ := id

theorem calm_modifyQuery (e : Engine) (q : QueryId) {f : Query Target → Query Target}
    (h : (e.query q).Coherent → (f (e.query q)).Coherent) :
    Calm arrives e (e.modifyQuery q f) where
  stack := id
  activations := rfl
  size := rfl
  owner _ _ := id
  coherent q' hq := by
    rcases query_modifyQuery e q q' f with hq' | ⟨rfl, hq'⟩
    · exact hq' ▸ hq
    · exact hq' ▸ h hq
  timeline _ := .refl _ _
  asks _ _ _ := id

theorem calm_setStatus (e : Engine) (o : OperationId) {status : Status}
    (h : ∀ request, status ≠ .waiting request) : Calm arrives e (e.setStatus o status) where
  stack := id
  activations := rfl
  size := rfl
  owner o' t ho := by
    simp only [Engine.owner, setStatus, List.getElem?_modify] at ho ⊢
    cases hop : e.operations[o']? with
    | none => simp [hop] at ho
    | some op =>
        by_cases heq : o = o'
        · simpa [hop, heq] using ho
        · simpa [hop, heq] using ho
  coherent _ := id
  timeline _ := .refl _ _
  asks a t r ha := by
    cases a with
    | task k => exact ha
    | operation o' =>
        simp only [Engine.asks, setStatus, List.getElem?_modify] at ha ⊢
        by_cases heq : o = o'
        · cases hop : e.operations[o']? with
          | none => simp [hop] at ha
          | some op =>
              cases status with
              | waiting request => exact absurd rfl (h request)
              | running | done _ | cancelled => simp [hop, heq] at ha
        · simpa [heq] using ha

theorem calm_retain (e : Engine) (target : Target) : Calm arrives e (e.retain target) := by
  cases target with
  | timeline t => exact calm_modifyTimeline e ⟨rfl, rfl, fun _ h => .inl h⟩
  | observer o =>
      exact ⟨id, rfl, rfl, fun _ _ => id, fun _ => id, fun _ => .refl _ _, fun _ _ _ => id⟩

theorem calm_retainAll (e : Engine) (targets : List Target) :
    Calm arrives e (e.retainAll targets) := by
  induction targets generalizing e with
  | nil => exact .refl _ _
  | cons target targets ih => exact (calm_retain e target).trans (ih _)

theorem calm_hold (e : Engine) (t : TimelineId) : Calm arrives e (e.hold t) :=
  (calm_retain e _).trans (calm_push _ rfl)

theorem calm_compile (e : Engine) (q : QueryId) : Calm arrives e (e.compile q).2.2 :=
  calm_modifyQuery e q (e.query q).remembers_compile.coherent

theorem calm_emit (e : Engine) (t : TimelineId) (delta : Delta) :
    Calm arrives e (e.emit t delta) :=
  calm_modifyTimeline e (keeps_emit _ _ delta)

theorem calm_dropSubscription (e : Engine) (subscription : Option (QueryId × SubscriptionId)) :
    Calm arrives e (e.dropSubscription subscription) := by
  cases subscription with
  | none => exact .refl _ _
  | some s => exact calm_modifyQuery e s.1 id

theorem calm_unsubscribe (e : Engine) (t : TimelineId) : Calm arrives e (e.unsubscribe t) :=
  (calm_dropSubscription e _).trans (calm_modifyTimeline _ ⟨rfl, rfl, fun _ h => .inl h⟩)

theorem calm_toggled (e : Engine) (q : QueryId) : Calm arrives e (e.toggled q) := by
  unfold toggled
  split
  · exact .refl _ _
  · exact calm_push e rfl

theorem calm_addActivation (e : Engine) (q : QueryId) : Calm arrives e (e.addActivation q) :=
  (calm_modifyQuery e q id).trans (calm_toggled _ q)

theorem calm_removeActivation (e : Engine) (q : QueryId) :
    Calm arrives e (e.removeActivation q) := by
  unfold removeActivation
  split
  · exact (calm_modifyQuery e q id).trans (calm_toggled _ q)
  · exact .refl _ _

-- The registry of a query has nothing to do with what the query remembers.
theorem calm_setRegistry (e : Engine) (q : QueryId)
    (f : Registry Target → Registry Target) :
    Calm arrives e (e.modifyQuery q fun query => { query with registry := f query.registry }) :=
  calm_modifyQuery e q id

theorem calm_announce (e : Engine) (q : QueryId) (revision : Nat) :
    Calm arrives e (e.announce q revision) := by
  have h : Calm arrives e _ := calm_setRegistry e q (·.request e.isAlive revision)
  unfold announce
  dsimp only
  split
  · exact h
  · exact (h.trans (calm_retainAll ..)).trans (calm_push _ rfl)

theorem calm_continueRounds (e : Engine) (q : QueryId) : Calm arrives e (e.continueRounds q) := by
  have h : Calm arrives e _ :=
    calm_setRegistry e q fun _ => ((e.query q).registry.advance e.isAlive).2
  unfold continueRounds
  dsimp only
  split
  · exact h.trans (calm_push _ rfl)
  · exact (h.trans (calm_retainAll ..)).trans (calm_push _ rfl)
  · exact h

end Engine

end FilteredFeed
