import FilteredFeed.Proofs.Engine.Overtaken

namespace FilteredFeed

open FilteredFeed.Feed FilteredFeed.Filter FilteredFeed.Listener FilteredFeed.Timeline

variable [Patterns]

namespace Timeline

-- What a timeline has of its query stays.
structure SameAccount (T T' : Timeline) : Prop where
  activated : T'.activated = T.activated
  subscription : T'.subscription = T.subscription
  epoch : T'.epoch = T.epoch

variable {T T' T'' : Timeline}

theorem SameAccount.refl (T : Timeline) : T.SameAccount T := ⟨rfl, rfl, rfl⟩

theorem SameAccount.trans (h : T.SameAccount T') (h' : T'.SameAccount T'') : T.SameAccount T'' :=
  ⟨h'.activated.trans h.activated, h'.subscription.trans h.subscription, h'.epoch.trans h.epoch⟩

theorem sameAccount_emit (T : Timeline) (delta : Delta) : T.SameAccount (T.emit delta) := by
  obtain ⟨events, h⟩ := emit_eq T delta
  exact h ▸ ⟨rfl, rfl, rfl⟩

theorem sameAccount_absorb (T : Timeline) (items : List Item) :
    T.SameAccount (T.absorb items).1 := by
  obtain ⟨events, h⟩ := absorb_eq T items
  exact h ▸ ⟨rfl, rfl, rfl⟩

theorem sameAccount_receive (T : Timeline) (item : Item) : T.SameAccount (T.receive item) := by
  obtain ⟨events, unread, notified, h⟩ := receive_eq T item
  exact h ▸ ⟨rfl, rfl, rfl⟩

end Timeline

namespace Engine

variable {e e' e'' : Engine} {t : TimelineId} {q : QueryId} {frames base : List Frame}

-- What a call that is to go on will add to the activations of a query, less what it will give back
-- or hand over.
def Frame.weight (q : QueryId) : Frame → Int
  | .activate q' => if q' = q then 1 else 0
  | .deactivate q' | .attach _ q' _ _ => if q' = q then -1 else 0
  | _ => 0

def weigh (q : QueryId) : List Frame → Int
  | [] => 0
  | f :: frames => f.weight q + weigh q frames

omit [Patterns] in
@[simp] theorem weigh_nil (q : QueryId) : weigh q [] = 0 := rfl

omit [Patterns] in
@[simp] theorem weigh_cons (q : QueryId) (f : Frame) (frames : List Frame) :
    weigh q (f :: frames) = f.weight q + weigh q frames := rfl

omit [Patterns] in
@[simp] theorem weigh_append (q : QueryId) (frames base : List Frame) :
    weigh q (frames ++ base) = weigh q frames + weigh q base := by
  induction frames with
  | nil => exact (Int.zero_add _).symm
  | cons f frames ih => rw [List.cons_append, weigh_cons, weigh_cons, ih, Int.add_assoc]

-- How many timelines have an activation on a query.
def users (e : Engine) (q : QueryId) : Nat := (e.timelines.map Timeline.activated).count (some q)

-- The activations that a query has, or will have, beyond those of timelines.
def surplus (e : Engine) (q : QueryId) : Int :=
  (e.query q).activations + weigh q e.stack - e.users q

-- Wherever a stack is cut, below there is somebody to take over each activation that is to come.
def Matched (q : QueryId) : List Frame → Prop
  | [] => True
  | f :: rest => weigh q (f :: rest) ≤ 0 ∧ Matched q rest

omit [Patterns] in
theorem Matched.weigh_nonpos (h : Matched q base) : weigh q base ≤ 0 := by
  cases base with
  | nil => exact Int.le_refl 0
  | cons f rest => exact h.1

omit [Patterns] in
theorem Matched.append (hf : Matched q frames) (hb : Matched q base) :
    Matched q (frames ++ base) := by
  induction frames with
  | nil => exact hb
  | cons f frames ih =>
      refine ⟨?_, ih hf.2⟩
      have hle := hf.1
      have hle' := hb.weigh_nonpos
      rw [weigh_cons] at hle
      rw [List.append_eq, weigh_cons, weigh_append]
      omega

omit [Patterns] in
theorem Matched.tail (h : Matched q base) : Matched q base.tail := by
  cases base with
  | nil => exact h
  | cons f rest => exact h.2

omit [Patterns] in
theorem matched_of_nonpos (h : ∀ f ∈ frames, f.weight q ≤ 0) : Matched q frames := by
  induction frames with
  | nil => trivial
  | cons f frames ih =>
      have hrest := ih fun f' hf' => h f' (List.mem_cons_of_mem _ hf')
      refine ⟨?_, hrest⟩
      have hle := h f List.mem_cons_self
      have hle' := hrest.weigh_nonpos
      rw [weigh_cons]
      omega

-- Whether a call is an attachment of a timeline in an epoch.
def Frame.attachesAt (t : TimelineId) (epoch : Nat) : Frame → Bool
  | .attach t' _ epoch' _ => t' == t && epoch' == epoch
  | _ => false

-- Whether a call has to do with the activations of a query.
def Frame.isDealing : Frame → Bool
  | .activate _ | .deactivate _ | .attach .. => true
  | _ => false

omit [Patterns] in
theorem weight_of_not_isDealing {f : Frame} (h : f.isDealing = false) (q : QueryId) :
    f.weight q = 0 := by
  cases f with
  | activate | deactivate | attach => cases h
  | announce | rounds | call | observer | release | emit | finish => rfl

omit [Patterns] in
theorem weigh_of_not_isDealing (h : ∀ f ∈ frames, f.isDealing = false) (q : QueryId) :
    weigh q frames = 0 := by
  induction frames with
  | nil => rfl
  | cons f frames ih =>
      rw [weigh_cons, weight_of_not_isDealing (h f List.mem_cons_self),
        ih fun f' hf' => h f' (List.mem_cons_of_mem _ hf')]
      rfl

omit [Patterns] in
theorem attachesAt_of_not_isDealing {f : Frame} (h : f.isDealing = false) (t : TimelineId)
    (epoch : Nat) : f.attachesAt t epoch = false := by
  cases f with
  | attach => cases h
  | activate | deactivate | announce | rounds | call | observer | release | emit | finish => rfl

-- How activations and subscriptions stand in every run. A timeline has an activation on the query to
-- which it is subscribed, and a subscription of a timeline is the one that it knows. It is either
-- subscribed or about to be, and that at most once.
structure Accounted (e : Engine) (base : List Frame) : Prop where
  paired : ∀ t, (e.timeline t).activated = (e.timeline t).subscription.map Prod.fst
  owned : ∀ q id t, (id, .timeline t) ∈ e.subscriptions q →
    (e.timeline t).subscription = some (q, id)
  known : ∀ t q, (e.timeline t).activated = some q → q < e.queries.length
  ranged : ∀ f ∈ e.stack, ∀ q, f.weight q ≠ 0 → q < e.queries.length
  past : ∀ t q epoch purpose, .attach t q epoch purpose ∈ e.stack → epoch ≤ (e.timeline t).epoch
  single : ∀ t, e.stack.countP (Frame.attachesAt t (e.timeline t).epoch) +
    (e.timeline t).subscription.toList.length ≤ 1
  matched : ∀ q, Matched q base

-- What has nothing to do with activations, and at most takes subscriptions of timelines away that
-- they do not know.
structure Discreet (e e' : Engine) : Prop where
  timeline : ∀ t, (e.timeline t).SameAccount (e'.timeline t)
  users : ∀ q, e'.users q = e.users q
  activations : ∀ q, (e'.query q).activations = (e.query q).activations
  range : e.queries.length ≤ e'.queries.length
  owned : ∀ q id t, (id, .timeline t) ∈ e'.subscriptions q → (id, .timeline t) ∈ e.subscriptions q
  stack : ∃ frames, e'.stack = frames ++ e.stack ∧ ∀ f ∈ frames, f.isDealing = false

theorem Discreet.refl (e : Engine) : Discreet e e :=
  ⟨fun _ => .refl _, fun _ => rfl, fun _ => rfl, Nat.le_refl _, fun _ _ _ => id, [], rfl, nofun⟩

theorem Discreet.trans (h : Discreet e e') (h' : Discreet e' e'') : Discreet e e'' where
  timeline t := (h.timeline t).trans (h'.timeline t)
  users q := (h'.users q).trans (h.users q)
  activations q := (h'.activations q).trans (h.activations q)
  range := Nat.le_trans h.range h'.range
  owned q id t := h.owned q id t ∘ h'.owned q id t
  stack := by
    obtain ⟨frames, hs, hf⟩ := h.stack
    obtain ⟨frames', hs', hf'⟩ := h'.stack
    refine ⟨frames' ++ frames, by rw [hs', hs, List.append_assoc], fun f hmem => ?_⟩
    rcases List.mem_append.mp hmem with hmem | hmem
    · exact hf' f hmem
    · exact hf f hmem

theorem Discreet.surplus (h : Discreet e e') (q : QueryId) : e'.surplus q = e.surplus q := by
  obtain ⟨frames, hs, hf⟩ := h.stack
  unfold Engine.surplus
  rw [h.activations, h.users, hs, weigh_append, weigh_of_not_isDealing hf, Int.zero_add]

omit [Patterns] in
theorem countP_attachesAt_append (h : ∀ f ∈ frames, f.isDealing = false) (t : TimelineId)
    (epoch : Nat) (base : List Frame) :
    (frames ++ base).countP (Frame.attachesAt t epoch) = base.countP (Frame.attachesAt t epoch) := by
  rw [List.countP_append, List.countP_eq_zero.mpr, Nat.zero_add]
  intro f hmem hattaches
  rw [attachesAt_of_not_isDealing (h f hmem)] at hattaches
  cases hattaches

theorem Discreet.accounted (h : Discreet e e') (ha : Accounted e e.stack) :
    Accounted e' e'.stack := by
  obtain ⟨frames, hs, hf⟩ := h.stack
  refine ⟨?_, ?_, ?_, ?_, ?_, ?_, ?_⟩
  · intro t
    rw [(h.timeline t).activated, (h.timeline t).subscription]
    exact ha.paired t
  · intro q id t hmem
    rw [(h.timeline t).subscription]
    exact ha.owned q id t (h.owned q id t hmem)
  · intro t q hq
    exact Nat.lt_of_lt_of_le (ha.known t q ((h.timeline t).activated ▸ hq)) h.range
  · intro f hmem q hweight
    rw [hs] at hmem
    rcases List.mem_append.mp hmem with hmem | hmem
    · exact absurd (weight_of_not_isDealing (hf f hmem) q) hweight
    · exact Nat.lt_of_lt_of_le (ha.ranged f hmem q hweight) h.range
  · intro t q epoch purpose hmem
    rw [hs] at hmem
    rw [(h.timeline t).epoch]
    rcases List.mem_append.mp hmem with hmem | hmem
    · cases hf _ hmem
    · exact ha.past t q epoch purpose hmem
  · intro t
    rw [(h.timeline t).epoch, (h.timeline t).subscription, hs, countP_attachesAt_append hf]
    exact ha.single t
  · intro q
    rw [hs]
    refine Matched.append (matched_of_nonpos fun f hmem => ?_) (ha.matched q)
    exact Int.le_of_eq (weight_of_not_isDealing (hf f hmem) q)

-- Everything stays accounted for, and nothing is activated or given back.
def Accounts (e e' : Engine) : Prop :=
  Accounted e e.stack → Accounted e' e'.stack ∧ ∀ q, e'.surplus q = e.surplus q

theorem Accounts.refl (e : Engine) : Accounts e e := fun h => ⟨h, fun _ => rfl⟩

theorem Accounts.trans (h : Accounts e e') (h' : Accounts e' e'') : Accounts e e'' := by
  intro ha
  obtain ⟨ha', hs⟩ := h ha
  obtain ⟨ha'', hs'⟩ := h' ha'
  exact ⟨ha'', fun q => (hs' q).trans (hs q)⟩

theorem Discreet.accounts (h : Discreet e e') : Accounts e e' :=
  fun ha => ⟨h.accounted ha, h.surplus⟩

-- What is discreet.

theorem users_congr (hsize : e'.timelines.length = e.timelines.length)
    (h : ∀ t, (e'.timeline t).activated = (e.timeline t).activated) (q : QueryId) :
    e'.users q = e.users q := by
  have heq : e'.timelines.map Timeline.activated = e.timelines.map Timeline.activated := by
    apply List.ext_getElem?
    intro t
    rw [List.getElem?_map, List.getElem?_map]
    have ht := h t
    unfold timeline at ht
    by_cases hlt : t < e.timelines.length
    · rw [List.getElem?_eq_getElem hlt, List.getElem?_eq_getElem (hsize ▸ hlt)] at ht ⊢
      exact congrArg some ht
    · rw [List.getElem?_eq_none (Nat.le_of_not_lt hlt),
        List.getElem?_eq_none (hsize ▸ Nat.le_of_not_lt hlt)]
  unfold users
  rw [heq]

theorem discreet_of_timelines (hq : e'.queries = e.queries) (hs : e'.stack = e.stack)
    (hsize : e'.timelines.length = e.timelines.length)
    (ht : ∀ t, (e.timeline t).SameAccount (e'.timeline t)) : Discreet e e' := by
  have hquery (q : QueryId) : e'.query q = e.query q := by
    unfold query
    rw [hq]
  refine ⟨ht, users_congr hsize fun t => (ht t).activated, fun q => by rw [hquery], ?_, ?_,
    [], hs, nofun⟩
  · exact Nat.le_of_eq (congrArg List.length hq.symm)
  · intro q id t hmem
    unfold subscriptions at hmem ⊢
    rwa [hquery] at hmem

theorem Background.discreet (h : Background e e') : Discreet e e' := by
  refine discreet_of_timelines h.queries h.stack (by rw [h.timelines]) fun t => ?_
  rw [h.timeline]
  exact .refl _

theorem discreet_modifyTimeline (e : Engine) {f : Timeline → Timeline}
    (h : (e.timeline t).SameAccount (f (e.timeline t))) : Discreet e (e.modifyTimeline t f) := by
  refine discreet_of_timelines rfl rfl (by simp [modifyTimeline]) fun t' => ?_
  rcases timeline_modifyTimeline e t t' f with hT | ⟨rfl, hT⟩
  · rw [hT]
    exact .refl _
  · rw [hT]
    exact h

theorem Within.discreet (h : Within t e e') (hT : (e.timeline t).SameAccount (e'.timeline t)) :
    Discreet e e' := by
  have ht (t' : TimelineId) : (e.timeline t').SameAccount (e'.timeline t') := by
    by_cases heq : t' = t
    · exact heq ▸ hT
    · rw [h.others t' heq]
      exact .refl _
  refine ⟨ht, users_congr h.size fun t => (ht t).activated, fun q => (h.query q).activations,
    Nat.le_of_eq h.range.symm, ?_, [], h.stack, nofun⟩
  intro q id t hmem
  unfold subscriptions at hmem ⊢
  rwa [(h.query q).registry] at hmem

theorem discreet_modifyQuery (e : Engine) (q : QueryId) {f : Query Target → Query Target}
    (hactivations : (f (e.query q)).activations = (e.query q).activations)
    (howned : ∀ id t, (id, .timeline t) ∈ (f (e.query q)).registry.subscriptions →
      (id, .timeline t) ∈ (e.query q).registry.subscriptions) :
    Discreet e (e.modifyQuery q f) := by
  refine ⟨fun _ => .refl _, fun _ => rfl, ?_, ?_, ?_, [], rfl, nofun⟩
  · intro q'
    rcases query_modifyQuery e q q' f with hQ | ⟨rfl, hQ⟩
    · rw [hQ]
    · rw [hQ, hactivations]
  · simp [modifyQuery]
  · intro q' id t hmem
    unfold subscriptions at hmem ⊢
    rcases query_modifyQuery e q q' f with hQ | ⟨rfl, hQ⟩
    · rwa [hQ] at hmem
    · rw [hQ] at hmem
      exact howned id t hmem

theorem discreet_push (e : Engine) (h : ∀ f ∈ frames, f.isDealing = false) :
    Discreet e (e.push frames) :=
  ⟨fun _ => .refl _, fun _ => rfl, fun _ => rfl, Nat.le_refl _, fun _ _ _ => id, frames, rfl, h⟩

theorem discreet_setStatus (e : Engine) (o : OperationId) (status : Status) :
    Discreet e (e.setStatus o status) :=
  discreet_of_timelines rfl rfl rfl fun _ => .refl _

theorem discreet_retain (e : Engine) (target : Target) : Discreet e (e.retain target) := by
  cases target with
  | timeline t => exact discreet_modifyTimeline e ⟨rfl, rfl, rfl⟩
  | observer o => exact discreet_of_timelines rfl rfl rfl fun _ => .refl _

theorem discreet_retainAll (e : Engine) (targets : List Target) :
    Discreet e (e.retainAll targets) := by
  induction targets generalizing e with
  | nil => exact .refl _
  | cons target targets ih => exact (discreet_retain e target).trans (ih _)

theorem discreet_hold (e : Engine) (t : TimelineId) : Discreet e (e.hold t) :=
  (discreet_retain e _).trans (discreet_push _ (by simp [Frame.isDealing]))

theorem discreet_emit (e : Engine) (t : TimelineId) (delta : Delta) :
    Discreet e (e.emit t delta) :=
  discreet_modifyTimeline e (sameAccount_emit _ delta)

theorem discreet_compile (e : Engine) (q : QueryId) : Discreet e (e.compile q).2.2 := by
  have hr := (e.query q).remembers_compile
  have howned (id : SubscriptionId) (t : TimelineId)
      (hmem : (id, .timeline t) ∈ (e.query q).compile.2.registry.subscriptions) :
      (id, .timeline t) ∈ (e.query q).registry.subscriptions := hr.registry ▸ hmem
  exact discreet_modifyQuery e q hr.activations howned

theorem discreet_currentFilter (e : Engine) (t : TimelineId) :
    Discreet e (e.currentFilter t).2 := by
  unfold currentFilter
  split
  · split
    · exact discreet_compile e _
    · exact .refl _
  · exact .refl _

theorem discreet_recompile (e : Engine) (t : TimelineId) : Discreet e (e.recompile t) := by
  unfold recompile
  split
  · exact (discreet_compile e _).trans (discreet_modifyTimeline _ ⟨rfl, rfl, rfl⟩)
  · exact discreet_modifyTimeline e ⟨rfl, rfl, rfl⟩

theorem discreet_startRefetch (e : Engine) (t : TimelineId) : Discreet e (e.startRefetch t) := by
  unfold startRefetch
  dsimp only
  split
  · refine Discreet.trans ?_ (discreet_modifyTimeline _ ⟨rfl, rfl, rfl⟩)
    exact (background_abort? e _).discreet.trans (discreet_of_timelines rfl rfl rfl fun _ => .refl _)
  · exact .refl e

theorem discreet_invalidateQuietly (e : Engine) (t : TimelineId) :
    Discreet e (e.invalidateQuietly t).2 := by
  by_cases ht : t < e.timelines.length
  · refine (within_invalidateQuietly e t).discreet ?_
    rw [timeline_invalidateQuietly ht]
    exact ⟨rfl, rfl, rfl⟩
  · rw [invalidateQuietly_of_le (Nat.le_of_not_lt ht)]
    exact .refl e

theorem discreet_invalidateNow (e : Engine) (t : TimelineId) : Discreet e (e.invalidateNow t) :=
  (discreet_invalidateQuietly e t).trans (discreet_emit ..)

theorem discreet_onInvalidated (e : Engine) (t : TimelineId) (revision : Nat) :
    Discreet e (e.onInvalidated t revision) := by
  unfold onInvalidated
  dsimp only
  split
  · exact .refl e
  · split
    · split
      · split
        · exact discreet_modifyTimeline e ⟨rfl, rfl, rfl⟩
        · exact .refl e
      · exact discreet_invalidateNow e t
    · exact discreet_invalidateNow e t

theorem discreet_refresh (e : Engine) (t : TimelineId) : Discreet e (e.refresh t) := by
  unfold refresh
  split
  · exact discreet_invalidateNow e t
  · exact .refl e

theorem discreet_offer (e : Engine) (t : TimelineId) (item : Item) :
    Discreet e (e.offer t item).2 := by
  have hcatch : Discreet e (e.catchUp t) := by
    unfold catchUp
    split
    · refine ((discreet_invalidateQuietly e t).trans ?_).trans (discreet_emit ..)
      exact discreet_modifyTimeline _ ⟨rfl, rfl, rfl⟩
    · exact .refl e
  rw [offer_eq]
  split
  · exact .refl e
  · split
    · exact hcatch.trans (discreet_modifyTimeline _ (sameAccount_receive ..))
    · exact hcatch

theorem discreet_prepare (e : Engine) (t : TimelineId) (o : OperationId) (generation : Nat) :
    Discreet e (e.prepare t o generation) := by
  rw [prepare_eq]
  split
  · exact discreet_push e (by simp [Frame.isDealing])
  · refine Discreet.trans ?_ (discreet_setStatus ..)
    unfold prepared
    split
    · refine ((discreet_recompile e t).trans ?_).trans (discreet_emit ..)
      exact discreet_modifyTimeline _ ⟨rfl, rfl, rfl⟩
    · exact .refl e

theorem discreet_toggled (e : Engine) (q : QueryId) : Discreet e (e.toggled q) := by
  unfold toggled
  split
  · exact .refl e
  · exact discreet_push e (by simp [Frame.isDealing])

-- Notifications only take subscriptions away.

omit [Patterns] in
theorem mem_of_request {r : Registry Target} {alive : Target → Bool} {revision : Nat}
    {s : SubscriptionId × Target} (h : s ∈ (r.request alive revision).subscriptions) :
    s ∈ r.subscriptions := by
  unfold Registry.request at h
  split at h
  · exact h
  · exact (List.mem_filter.mp h).1

omit [Patterns] in
theorem mem_of_advance {r : Registry Target} {alive : Target → Bool} {s : SubscriptionId × Target}
    (h : s ∈ (r.advance alive).2.subscriptions) : s ∈ r.subscriptions := by
  unfold Registry.advance at h
  split at h
  · exact h
  · exact h
  · split at h
    · exact (List.mem_filter.mp h).1
    · exact h

theorem discreet_announce (e : Engine) (q : QueryId) (revision : Nat) :
    Discreet e (e.announce q revision) := by
  have hregistry : Discreet e (e.modifyQuery q fun query =>
      { query with registry := query.registry.request e.isAlive revision }) :=
    discreet_modifyQuery e q rfl fun _ _ => mem_of_request
  unfold announce
  dsimp only
  split
  · exact hregistry
  · exact (hregistry.trans (discreet_retainAll ..)).trans
      (discreet_push _ (by simp [Frame.isDealing]))

theorem discreet_continueRounds (e : Engine) (q : QueryId) : Discreet e (e.continueRounds q) := by
  have hregistry : Discreet e (e.modifyQuery q fun query =>
      { query with registry := ((e.query q).registry.advance e.isAlive).2 }) :=
    discreet_modifyQuery e q rfl fun _ _ => mem_of_advance
  unfold continueRounds
  dsimp only
  split
  · exact hregistry.trans (discreet_push _ (by simp [Frame.isDealing]))
  · exact (hregistry.trans (discreet_retainAll ..)).trans
      (discreet_push _ (by simp [Frame.isDealing]))
  · exact hregistry

theorem discreet_addOperation (e : Engine) (t : TimelineId) (kind : OperationKind) :
    Discreet e (e.addOperation t kind).2 := by
  have hadded : Discreet e
      { e with operations := e.operations ++ [{ timeline := t, kind, status := .running }] } :=
    discreet_of_timelines rfl rfl rfl fun _ => .refl _
  exact hadded.trans (discreet_retain _ (.timeline t))

theorem discreet_launch (e : Engine) (t : TimelineId) : Discreet e (e.launch t) := by
  have hspawn : Discreet e (e.spawn (.pump t (e.timeline t).stream)).2 :=
    discreet_of_timelines rfl rfl rfl fun _ => .refl _
  refine Discreet.trans ?_ (discreet_modifyTimeline _ ⟨rfl, rfl, rfl⟩)
  exact hspawn.trans (background_modifyChannel ..).discreet

theorem discreet_listen (e : Engine) (q : QueryId) : Discreet e (e.listen q).2.2 := by
  have hobserver : Discreet e { e with observers := e.observers ++ [1] } :=
    discreet_of_timelines rfl rfl rfl fun _ => .refl _
  refine hobserver.trans (discreet_modifyQuery _ q rfl fun id t hmem => ?_)
  rcases List.mem_append.mp hmem with hmem | hmem
  · exact hmem
  · cases List.mem_singleton.mp hmem

theorem discreet_dropSubscription (e : Engine)
    (subscription : Option (QueryId × SubscriptionId)) :
    Discreet e (e.dropSubscription subscription) := by
  cases subscription with
  | none => exact .refl e
  | some s => exact discreet_modifyQuery e s.1 rfl fun _ _ h => (List.mem_filter.mp h).1

end Engine

end FilteredFeed
