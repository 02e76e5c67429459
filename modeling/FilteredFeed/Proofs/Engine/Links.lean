import FilteredFeed.Proofs.Engine.Wiring

namespace FilteredFeed.Engine

open FilteredFeed.Feed FilteredFeed.Filter FilteredFeed.Listener FilteredFeed.Timeline

variable [Patterns]
variable {e e' e'' : Engine} {t : TimelineId} {q : QueryId} {d : Option TimelineId}

-- What is done to timelines alone.
theorem links_of_timelines (hq : e'.queries = e.queries) (hs : e'.stack = e.stack)
    (ho : e'.operations = e.operations)
    (ht : ∀ t, d ≠ some t → (e.timeline t).SameTies (e'.timeline t)) : Links d e e' := by
  have hquery (q : QueryId) : e'.query q = e.query q := by
    unfold query
    rw [hq]
  refine ⟨⟨fun t hd => ⟨ht t hd, ?_, ?_, ?_⟩, ?_, ?_, ?_, ?_, ?_⟩, ?_, ?_, ?_, ?_⟩
  · intro q id hsub hmem
    unfold subscriptions at hmem ⊢
    rwa [hquery]
  · intro q epoch purpose
    rw [hs]
  · intro o r hop
    rwa [ho] at hop
  · intro q hc
    rwa [hquery]
  · intro q hr
    rwa [hquery]
  · exact Nat.le_of_eq (congrArg List.length hq.symm)
  · intro q hlt
    rw [hquery]
  · intro q hlt
    rw [hquery]
  · intro t hd f hf htells
    rwa [hs]
  · intro q hf
    rwa [hs]
  · intro q
    rw [hquery]
  · intro q
    rw [hquery]

theorem Background.links (h : Background e e') : Links none e e' := by
  refine links_of_timelines h.queries h.stack h.operations ?_
  intro t hd
  rw [h.timeline]
  exact .refl _

theorem links_modifyTimeline (e : Engine) {f : Timeline → Timeline}
    (h : (e.timeline t).SameTies (f (e.timeline t))) : Links none e (e.modifyTimeline t f) := by
  refine links_of_timelines rfl rfl rfl ?_
  intro t' hd
  rcases timeline_modifyTimeline e t t' f with hT | ⟨rfl, hT⟩
  · rw [hT]
    exact .refl _
  · rw [hT]
    exact h

-- What is done to a query alone, but for the notifications that are under way.
theorem ties_modifyQuery (e : Engine) (q : QueryId) {f : Query Target → Query Target}
    (hexpr : (f (e.query q)).expr = (e.query q).expr)
    (hrevision : (f (e.query q)).revision = (e.query q).revision)
    (hcoherent : (e.query q).Coherent → (f (e.query q)).Coherent)
    (horderly : (e.query q).registry.Orderly → (f (e.query q)).registry.Orderly)
    (hkept : ∀ t, d ≠ some t → ∀ id, (e.timeline t).subscription = some (q, id) →
      (id, .timeline t) ∈ (e.query q).registry.subscriptions →
        (id, .timeline t) ∈ (f (e.query q)).registry.subscriptions) :
    Ties d e (e.modifyQuery q f) := by
  refine ⟨fun t hd => ⟨.refl _, ?_, fun _ _ _ => Iff.rfl, fun _ _ => id⟩, ?_, ?_, ?_, ?_, ?_⟩
  · intro q' id hsub hmem
    unfold subscriptions at hmem ⊢
    rcases query_modifyQuery e q q' f with hQ | ⟨rfl, hQ⟩
    · rwa [hQ]
    · rw [hQ]
      exact hkept t hd id hsub hmem
  · intro q' hc
    rcases query_modifyQuery e q q' f with hQ | ⟨rfl, hQ⟩
    · rwa [hQ]
    · rw [hQ]
      exact hcoherent hc
  · intro q' hr
    rcases query_modifyQuery e q q' f with hQ | ⟨rfl, hQ⟩
    · rwa [hQ]
    · rw [hQ]
      exact horderly hr
  · simp [modifyQuery]
  · intro q' hlt
    rcases query_modifyQuery e q q' f with hQ | ⟨rfl, hQ⟩
    · rw [hQ]
    · rw [hQ, hrevision]
  · intro q' hlt
    rcases query_modifyQuery e q q' f with hQ | ⟨rfl, hQ⟩
    · rw [hQ]
    · rw [hQ, hexpr]

theorem Ties.links_modifyQuery {f : Query Target → Query Target}
    (h : Ties d e (e.modifyQuery q f))
    (hround : (f (e.query q)).registry.round = (e.query q).registry.round)
    (hpending : (f (e.query q)).registry.pending = (e.query q).registry.pending) :
    Links d e (e.modifyQuery q f) := by
  refine ⟨h, fun _ _ _ hf _ => hf, fun _ => id, ?_, ?_⟩
  · intro q'
    rcases query_modifyQuery e q q' f with hQ | ⟨rfl, hQ⟩
    · rw [hQ]
    · rw [hQ, hround]
  · intro q'
    rcases query_modifyQuery e q q' f with hQ | ⟨rfl, hQ⟩
    · rw [hQ]
    · rw [hQ, hpending]

-- What a query remembers, and how often it was activated, is of no concern.
theorem links_remember (e : Engine) (q : QueryId) {f : Query Target → Query Target}
    (hexpr : (f (e.query q)).expr = (e.query q).expr)
    (hrevision : (f (e.query q)).revision = (e.query q).revision)
    (hcoherent : (e.query q).Coherent → (f (e.query q)).Coherent)
    (hregistry : (f (e.query q)).registry = (e.query q).registry) :
    Links none e (e.modifyQuery q f) := by
  refine (ties_modifyQuery e q hexpr hrevision hcoherent ?_ ?_).links_modifyQuery ?_ ?_
  · rw [hregistry]
    exact id
  · intro t hd id hsub hmem
    rwa [hregistry]
  · rw [hregistry]
  · rw [hregistry]

-- What is done within a timeline can disturb no other one.
theorem Within.links (h : Within t e e') : Links (some t) e e' := by
  have hregistry (q : QueryId) := (h.query q).registry
  refine ⟨⟨fun t' hd => ⟨?_, ?_, ?_, ?_⟩, ?_, ?_, ?_, ?_, ?_⟩, ?_, ?_, ?_, ?_⟩
  · rw [h.others t' fun heq => hd (congrArg some heq.symm)]
    exact .refl _
  · intro q id hsub hmem
    unfold subscriptions at hmem ⊢
    rwa [hregistry]
  · intro q epoch purpose
    rw [h.stack]
  · intro o r hop
    rwa [h.operations] at hop
  · exact fun q => (h.query q).coherent
  · intro q hr
    rwa [hregistry]
  · exact Nat.le_of_eq h.range.symm
  · exact fun q _ => (h.query q).revision
  · exact fun q _ => (h.query q).expr
  · intro t' hd f hf htells
    rwa [h.stack]
  · intro q hf
    rwa [h.stack]
  · intro q
    rw [hregistry]
  · intro q
    rw [hregistry]

theorem links_compile (e : Engine) (q : QueryId) : Links none e (e.compile q).2.2 := by
  have hr := (e.query q).remembers_compile
  exact links_remember e q hr.expr hr.revision hr.coherent hr.registry

theorem links_currentFilter (e : Engine) (t : TimelineId) :
    Links none e (e.currentFilter t).2 := by
  unfold currentFilter
  split
  · split
    · exact links_compile e _
    · exact .refl _ _
  · exact .refl _ _

-- The stack.

theorem links_pushed (e : Engine) {frames : List Frame}
    (h : ∀ t, d ≠ some t → ∀ q epoch purpose, .attach t q epoch purpose ∉ frames) :
    Links d e (e.push frames) := by
  refine ⟨⟨fun t hd => ⟨.refl _, fun _ _ _ => id, ?_, fun _ _ => id⟩, fun _ => id, fun _ => id,
    Nat.le_refl _, fun _ _ => rfl, fun _ _ => rfl⟩, ?_, ?_, fun _ => rfl, fun _ => rfl⟩
  · intro q epoch purpose
    simp [push, List.mem_append, h t hd q epoch purpose]
  · intro t hd f hf htells
    exact List.mem_append_right _ hf
  · intro q hf
    exact List.mem_append_right _ hf

theorem links_push (e : Engine) {frames : List Frame}
    (h : ∀ t q epoch purpose, .attach t q epoch purpose ∉ frames) : Links none e (e.push frames) :=
  links_pushed e fun t _ => h t

omit [Patterns] in
theorem attach_notMem_deactivations (query : Option QueryId) (t : TimelineId) (q : QueryId)
    (epoch : Nat) (purpose : Purpose) : .attach t q epoch purpose ∉ deactivations query := by
  cases query <;> simp [deactivations]

-- Taking the next frame only matters to whom it concerns.
theorem ties_pop {f : Frame} {rest : List Frame} (hs : e.stack = f :: rest)
    (hattach : ∀ t, d ≠ some t → ∀ q epoch purpose, f ≠ .attach t q epoch purpose) :
    Ties d e { e with stack := rest } := by
  refine ⟨fun t hd => ⟨.refl _, fun _ _ _ => id, ?_, fun _ _ => id⟩, fun _ => id, fun _ => id,
    Nat.le_refl _, fun _ _ => rfl, fun _ _ => rfl⟩
  intro q epoch purpose
  simp [hs, Ne.symm (hattach t hd q epoch purpose)]

theorem mem_rest {f f' : Frame} {rest : List Frame} (hs : e.stack = f :: rest)
    (h : f' ∈ e.stack) (hne : f' ≠ f) : f' ∈ rest := by
  rw [hs] at h
  exact (List.mem_cons.mp h).resolve_left hne

theorem links_pop {f : Frame} {rest : List Frame} (hs : e.stack = f :: rest)
    (hattach : ∀ t, d ≠ some t → ∀ q epoch purpose, f ≠ .attach t q epoch purpose)
    (htells : ∀ t, d ≠ some t → f.tells t = false) (hrounds : ∀ q, f ≠ .rounds q) :
    Links d e { e with stack := rest } := by
  refine ⟨ties_pop hs hattach, ?_, ?_, fun _ => rfl, fun _ => rfl⟩
  · intro t hd f' hf' htells'
    refine mem_rest hs hf' ?_
    rintro rfl
    rw [htells t hd] at htells'
    cases htells'
  · exact fun q hf' => mem_rest hs hf' (Ne.symm (hrounds q))

theorem links_toggled (e : Engine) (q : QueryId) : Links none e (e.toggled q) := by
  unfold toggled
  split
  · exact .refl _ _
  · exact links_push e (by simp)

theorem links_addActivation (e : Engine) (q : QueryId) : Links none e (e.addActivation q) :=
  (links_remember e q rfl rfl id rfl).trans (links_toggled _ q)

theorem links_removeActivation (e : Engine) (q : QueryId) :
    Links none e (e.removeActivation q) := by
  unfold removeActivation
  split
  · exact (links_remember e q rfl rfl id rfl).trans (links_toggled _ q)
  · exact .refl _ _

-- Holds.

theorem links_retain (e : Engine) (target : Target) : Links none e (e.retain target) := by
  cases target with
  | timeline t =>
      exact links_modifyTimeline e
        ⟨rfl, rfl, rfl, rfl, rfl, rfl, rfl, fun _ => Nat.succ_pos _⟩
  | observer o => exact links_of_timelines rfl rfl rfl fun _ _ => .refl _

theorem links_retainAll (e : Engine) (targets : List Target) :
    Links none e (e.retainAll targets) := by
  induction targets generalizing e with
  | nil => exact .refl _ _
  | cons target targets ih => exact (links_retain e target).trans (ih _)

theorem links_hold (e : Engine) (t : TimelineId) : Links none e (e.hold t) :=
  (links_retain e _).trans (links_push _ (by simp))

theorem links_emit (e : Engine) (t : TimelineId) (delta : Delta) :
    Links none e (e.emit t delta) := by
  apply links_modifyTimeline
  obtain ⟨events, h⟩ := emit_eq (e.timeline t) delta
  rw [h]
  exact ⟨rfl, rfl, rfl, rfl, rfl, rfl, rfl, id⟩

-- Operations.

theorem links_setStatus (e : Engine) (o : OperationId) {status : Status}
    (h : ∀ request, status ≠ .waiting request) : Links none e (e.setStatus o status) := by
  refine ⟨⟨fun t _ => ⟨.refl _, fun _ _ _ => id, fun _ _ _ => Iff.rfl, ?_⟩, fun _ => id,
    fun _ => id, Nat.le_refl _, fun _ _ => rfl, fun _ _ => rfl⟩, fun _ _ _ hf _ => hf, fun _ => id,
    fun _ => rfl, fun _ => rfl⟩
  intro o' r hop
  simp only [setStatus, List.getElem?_modify] at hop
  by_cases heq : o = o'
  · subst heq
    cases hold : e.operations[o]? with
    | none => simp [hold] at hop
    | some operation =>
        obtain ⟨-, -, hstatus⟩ : operation.timeline = t ∧ operation.kind = .activation ∧
            status = .waiting r := by simpa [hold] using hop
        exact absurd hstatus (h r)
  · simpa [heq] using hop

theorem links_addOperation (e : Engine) (t : TimelineId) (kind : OperationKind) :
    Links none e (e.addOperation t kind).2 := by
  unfold addOperation
  dsimp only
  refine Links.trans ?_ (links_retain _ _)
  refine ⟨⟨fun t' _ => ⟨.refl _, fun _ _ _ => id, fun _ _ _ => Iff.rfl, ?_⟩, fun _ => id,
    fun _ => id, Nat.le_refl _, fun _ _ => rfl, fun _ _ => rfl⟩, fun _ _ _ hf _ => hf, fun _ => id,
    fun _ => rfl, fun _ => rfl⟩
  intro o r hop
  simp only [List.getElem?_append] at hop
  split at hop
  · exact hop
  · cases hi : o - e.operations.length with
    | zero => simp [hi] at hop
    | succ i => simp [hi] at hop

-- Subscriptions.

-- A timeline gives up a subscription of its own.
theorem links_dropSubscription {subscription : Option (QueryId × SubscriptionId)}
    (horderly : ∀ q, (e.query q).registry.Orderly)
    (hown : ∀ q id, subscription = some (q, id) → (id, .timeline t) ∈ e.subscriptions q) :
    Links (some t) e (e.dropSubscription subscription) := by
  cases subscription with
  | none => exact .refl _ _
  | some s =>
      obtain ⟨q, id⟩ := s
      have hmem := hown q id rfl
      refine (ties_modifyQuery e q rfl rfl (fun h => h) (fun h => h.unsubscribe id)
        ?_).links_modifyQuery rfl rfl
      intro t' hd id' hsub hmem'
      refine Registry.mem_unsubscribe hmem' ?_
      rintro rfl
      have heq := (horderly q).eq_of_id hmem hmem'
      exact hd (congrArg some (Target.timeline.inj heq))

theorem links_endWork (horderly : ∀ q, (e.query q).registry.Orderly)
    (hown : ∀ q id, (e.timeline t).subscription = some (q, id) →
      (id, .timeline t) ∈ e.subscriptions q) : Links (some t) e (e.endWork t) := by
  have hb := background_abortWork e t
  refine hb.links.of_none.trans (links_dropSubscription ?_ ?_)
  · intro q
    rw [hb.query]
    exact horderly q
  · intro q id hsub
    unfold subscriptions
    rw [hb.query]
    exact hown q id hsub

theorem links_teardown (horderly : ∀ q, (e.query q).registry.Orderly)
    (hown : ∀ q id, (e.timeline t).subscription = some (q, id) →
      (id, .timeline t) ∈ e.subscriptions q) : Links (some t) e (e.teardown t).2 := by
  rw [teardown_eq]
  exact (links_endWork horderly hown).trans (within_modifyTimeline ..).links

theorem links_unsubscribe (horderly : ∀ q, (e.query q).registry.Orderly)
    (hown : ∀ q id, (e.timeline t).subscription = some (q, id) →
      (id, .timeline t) ∈ e.subscriptions q) : Links (some t) e (e.unsubscribe t) :=
  (links_dropSubscription horderly hown).trans (within_modifyTimeline ..).links

theorem Wired.own (hw : Wired e) (t : TimelineId) :
    ∀ q id, (e.timeline t).subscription = some (q, id) → (id, .timeline t) ∈ e.subscriptions q :=
  fun q id hsub => ((hw.bound t).subscribed q id hsub).2.2

-- A subscription is added to a query.
theorem links_subscribe (e : Engine) (q : QueryId) (target : Target) :
    Links none e (e.modifyQuery q fun query =>
      { query with registry := ((e.query q).registry.subscribe target).2 }) := by
  refine (ties_modifyQuery e q rfl rfl (fun h => h) (fun h => h.subscribe target)
    ?_).links_modifyQuery rfl rfl
  intro t hd id hsub hmem
  exact List.mem_append_left _ hmem

theorem subscriptions_subscribe (hq : q < e.queries.length) (target : Target) :
    (e.modifyQuery q fun query =>
      { query with registry := ((e.query q).registry.subscribe target).2 }).subscriptions q =
        e.subscriptions q ++ [((e.query q).registry.nextId, target)] := by
  unfold subscriptions
  rw [query_modifyQuery_self hq]
  rfl

theorem links_enrol (horderly : ∀ q, (e.query q).registry.Orderly)
    (hown : ∀ q id, (e.timeline t).subscription = some (q, id) →
      (id, .timeline t) ∈ e.subscriptions q) (q : QueryId) : Links (some t) e (e.enrol t q) := by
  have hsubscribed := links_subscribe e q (.timeline t)
  unfold enrol
  refine hsubscribed.of_none.trans ((links_unsubscribe ?_ ?_).trans
    (within_modifyTimeline ..).links)
  · exact fun q' => hsubscribed.orderly q' (horderly q')
  · exact fun q' id hsub => (hsubscribed.spares t nofun).kept q' id hsub (hown q' id hsub)

theorem mem_dropSubscription {subscription : Option (QueryId × SubscriptionId)}
    {id : SubscriptionId} {target : Target} (h : (id, target) ∈ e.subscriptions q)
    (hne : subscription ≠ some (q, id)) :
    (id, target) ∈ (e.dropSubscription subscription).subscriptions q := by
  cases subscription with
  | none => exact h
  | some s =>
      obtain ⟨q', id'⟩ := s
      unfold subscriptions dropSubscription at *
      dsimp only
      rcases query_modifyQuery e q' q fun query =>
        { query with registry := (query.registry.unsubscribe id').2 } with hQ | ⟨rfl, hQ⟩
      · rw [hQ]
        exact h
      · rw [hQ]
        exact Registry.mem_unsubscribe h fun heq => hne (heq ▸ rfl)

-- A timeline that is subscribed anew has its new subscription, which is none that it had.
theorem mem_enrol (horderly : ∀ q, (e.query q).registry.Orderly)
    (hown : ∀ q id, (e.timeline t).subscription = some (q, id) →
      (id, .timeline t) ∈ e.subscriptions q) (hq : q < e.queries.length) :
    ((e.query q).registry.nextId, .timeline t) ∈ (e.enrol t q).subscriptions q := by
  have hnew : ((e.query q).registry.nextId, Target.timeline t) ∈
      (e.modifyQuery q fun query => { query with
        registry := ((e.query q).registry.subscribe (.timeline t)).2 }).subscriptions q := by
    rw [subscriptions_subscribe hq]
    exact List.mem_append_right _ List.mem_cons_self
  refine mem_dropSubscription hnew fun hsub => ?_
  exact Nat.lt_irrefl _ ((horderly q).used _ (hown q _ hsub))

-- An observer gives up a subscription that no timeline has.
theorem links_dropSubscription_observer {id : SubscriptionId}
    (h : ∀ s ∈ e.subscriptions q, s.1 = id → s.2.isObserver = true) :
    Links none e (e.dropSubscription (some (q, id))) := by
  refine (ties_modifyQuery e q rfl rfl (fun h => h) (fun h => h.unsubscribe id)
    ?_).links_modifyQuery rfl rfl
  intro t hd id' hsub hmem
  refine Registry.mem_unsubscribe hmem ?_
  rintro rfl
  cases h _ hmem rfl

theorem links_listen (e : Engine) (q : QueryId) : Links none e (e.listen q).2.2 := by
  have hobserver : Links none e { e with observers := e.observers ++ [1] } :=
    links_of_timelines rfl rfl rfl fun _ _ => .refl _
  exact hobserver.trans (links_subscribe _ q (.observer e.observers.length))

theorem query_append (hq : q < e.queries.length) (new : Query Target) :
    (e.addQuery new).2.query q = e.query q := by
  simp [addQuery, query, List.getElem?_append_left hq]

theorem query_append_ge (hq : e.queries.length ≤ q) (expr : Expr) (source : Option String) :
    ((e.addQuery { expr, source }).2.query q).Coherent ∧
      ((e.addQuery { expr, source }).2.query q).registry = {} := by
  simp only [addQuery, query, List.getElem?_append_right hq]
  cases hi : q - e.queries.length with
  | zero => simp [Query.Coherent]
  | succ i => simp [Query.Coherent, default]

theorem links_addQuery (e : Engine) (expr : Expr) (source : Option String) :
    Links none e (e.addQuery { expr, source }).2 := by
  have hregistry (q : QueryId) :
      ((e.addQuery { expr, source }).2.query q).registry = (e.query q).registry := by
    by_cases hq : q < e.queries.length
    · rw [query_append hq]
    · have hle := Nat.le_of_not_lt hq
      rw [(query_append_ge hle expr source).2]
      simp [query, List.getElem?_eq_none hle, default]
  refine ⟨⟨fun t _ => ⟨.refl _, ?_, fun _ _ _ => Iff.rfl, fun _ _ => id⟩, ?_, ?_, ?_, ?_, ?_⟩,
    fun _ _ _ hf _ => hf, fun _ => id, ?_, ?_⟩
  · intro q id hsub hmem
    unfold subscriptions at hmem ⊢
    rwa [hregistry]
  · intro q hc
    by_cases hq : q < e.queries.length
    · rwa [query_append hq]
    · exact (query_append_ge (Nat.le_of_not_lt hq) expr source).1
  · intro q hr
    rwa [hregistry]
  · simp [addQuery]
  · intro q hq
    rw [query_append hq]
  · intro q hq
    rw [query_append hq]
  · intro q
    rw [hregistry]
  · intro q
    rw [hregistry]

end FilteredFeed.Engine
