import FilteredFeed.Proofs.Engine.Accounts

namespace FilteredFeed.Engine

open FilteredFeed.Feed FilteredFeed.Filter FilteredFeed.Listener FilteredFeed.Timeline
open FilteredFeed.Scenario (Asker)

variable [Patterns]
variable {e e' : Engine} {t : TimelineId} {q : QueryId} {frames rest base : List Frame} {m : Move}

-- Frames are put on the stack.

theorem Accounted.push (ha : Accounted e e.stack)
    (hranged : ∀ f ∈ frames, ∀ q, f.weight q ≠ 0 → q < e.queries.length)
    (hmatched : ∀ q, Matched q frames)
    (hpast : ∀ t q epoch purpose, .attach t q epoch purpose ∈ frames →
      epoch ≤ (e.timeline t).epoch)
    (hsingle : ∀ t, frames.countP (Frame.attachesAt t (e.timeline t).epoch) +
      (e.stack.countP (Frame.attachesAt t (e.timeline t).epoch) +
        (e.timeline t).subscription.toList.length) ≤ 1) :
    Accounted (e.push frames) (e.push frames).stack where
  paired := ha.paired
  owned := ha.owned
  known := ha.known
  ranged f hmem := by
    rcases List.mem_append.mp hmem with hmem | hmem
    · exact hranged f hmem
    · exact ha.ranged f hmem
  past t q epoch purpose hmem := by
    rcases List.mem_append.mp hmem with hmem | hmem
    · exact hpast t q epoch purpose hmem
    · exact ha.past t q epoch purpose hmem
  single t := by
    have hle := hsingle t
    have hT : (e.push frames).timeline t = e.timeline t := rfl
    rw [hT, Engine.push, List.countP_append, Nat.add_assoc]
    exact hle
  matched q := (hmatched q).append (ha.matched q)

theorem surplus_push (e : Engine) (frames : List Frame) (q : QueryId) :
    (e.push frames).surplus q = e.surplus q + weigh q frames := by
  have hquery : (e.push frames).query q = e.query q := rfl
  have husers : (e.push frames).users q = e.users q := rfl
  have hstack : (e.push frames).stack = frames ++ e.stack := rfl
  unfold surplus
  rw [hquery, husers, hstack, weigh_append]
  omega

omit [Patterns] in
theorem weigh_deactivations (activated : Option QueryId) (q : QueryId) :
    weigh q (deactivations activated) = if activated = some q then -1 else 0 := by
  cases activated with
  | none => rfl
  | some q' => simp [deactivations, Frame.weight]

theorem Accounted.push_deactivations (ha : Accounted e e.stack) (activated : Option QueryId)
    (hknown : ∀ q, activated = some q → q < e.queries.length) :
    Accounted (e.push (deactivations activated)) (e.push (deactivations activated)).stack := by
  cases activated with
  | none => exact ha
  | some q =>
      refine ha.push ?_ (fun q' => matched_of_nonpos ?_) ?_ fun t => ?_
      · intro f hmem q' hweight
        obtain rfl := List.mem_singleton.mp hmem
        by_cases hq : q = q'
        · exact hq ▸ hknown q rfl
        · exact absurd (if_neg hq) hweight
      · intro f hmem
        obtain rfl := List.mem_singleton.mp hmem
        unfold Frame.weight
        dsimp only
        split
        · decide
        · exact Int.le_refl 0
      · intro t q' epoch purpose hmem
        cases List.mem_singleton.mp hmem
      · have hle := ha.single t
        have hzero : (deactivations (some q)).countP
            (Frame.attachesAt t (e.timeline t).epoch) = 0 := rfl
        rw [hzero, Nat.zero_add]
        exact hle

-- A timeline gives up what it has of its query.

theorem count_modify (l : List Timeline) (f : Timeline → Timeline) (q : QueryId) {t : Nat}
    (ht : t < l.length) :
    ((l.modify t f).map Timeline.activated).count (some q) +
        (if l[t].activated = some q then 1 else 0) =
      (l.map Timeline.activated).count (some q) +
        (if (f l[t]).activated = some q then 1 else 0) := by
  induction l generalizing t with
  | nil => cases ht
  | cons T l ih =>
      cases t with
      | zero =>
          simp only [List.modify_zero_cons, List.map_cons, List.count_cons, List.getElem_cons_zero,
            beq_iff_eq]
          omega
      | succ t =>
          have hrest := ih (Nat.lt_of_succ_lt_succ ht)
          simp only [List.modify_succ_cons, List.map_cons, List.count_cons,
            List.getElem_cons_succ, beq_iff_eq]
          omega

theorem users_apart (h : Apart t e e') (ht : t < e.timelines.length) (q : QueryId) :
    e'.users q + (if (e.timeline t).activated = some q then 1 else 0) =
      e.users q + (if (e'.timeline t).activated = some q then 1 else 0) := by
  have heq : e'.users q = (e.modifyTimeline t fun _ => e'.timeline t).users q := by
    refine users_congr (by simp [modifyTimeline, h.size]) (fun t' => ?_) q
    by_cases hne : t' = t
    · rw [hne, timeline_modifyTimeline_self ht]
    · rw [h.others t' hne, timeline_modifyTimeline_ne hne]
  have hcount := count_modify e.timelines (fun _ => e'.timeline t) q ht
  rw [getElem_timelines ht] at hcount
  rw [heq]
  exact hcount

omit [Patterns] in
theorem attachesAt_eq_true {f : Frame} {epoch : Nat} (h : f.attachesAt t epoch = true) :
    ∃ q purpose, f = .attach t q epoch purpose := by
  cases f with
  | attach t' q epoch' purpose =>
      obtain ⟨rfl, rfl⟩ : t' = t ∧ epoch' = epoch := by simpa [Frame.attachesAt] using h
      exact ⟨q, purpose, rfl⟩
  | activate | deactivate | announce | rounds | call | observer | release | emit | finish => cases h

theorem Accounted.left (ha : Accounted e e.stack) (ht : t < e.timelines.length) (h : Apart t e e')
    (hrange : e'.queries.length = e.queries.length)
    (hactivations : ∀ q, (e'.query q).activations = (e.query q).activations)
    (hactivated : (e'.timeline t).activated = none)
    (hsubscription : (e'.timeline t).subscription = none)
    (hepoch : (e'.timeline t).epoch = (e.timeline t).epoch + 1)
    (howned : ∀ q s, s ∈ e'.subscriptions q →
      s ∈ e.subscriptions q ∧ (e.timeline t).subscription ≠ some (q, s.1)) :
    Accounted e' e'.stack ∧
      (∀ q, e'.surplus q = e.surplus q + if (e.timeline t).activated = some q then 1 else 0) ∧
        e'.stack.countP (Frame.attachesAt t (e'.timeline t).epoch) = 0 := by
  have hnone : e'.stack.countP (Frame.attachesAt t (e'.timeline t).epoch) = 0 := by
    refine List.countP_eq_zero.mpr fun f hmem hattaches => ?_
    obtain ⟨q, purpose, rfl⟩ := attachesAt_eq_true hattaches
    have hle := ha.past t q _ purpose (h.stack ▸ hmem)
    omega
  refine ⟨⟨?_, ?_, ?_, ?_, ?_, ?_, ?_⟩, ?_, hnone⟩
  · intro t'
    by_cases hne : t' = t
    · rw [hne, hactivated, hsubscription]
      rfl
    · rw [h.others t' hne]
      exact ha.paired t'
  · intro q id t' hmem
    obtain ⟨hmem, hother⟩ := howned q _ hmem
    have hsub := ha.owned q id t' hmem
    by_cases hne : t' = t
    · exact absurd (hne ▸ hsub) hother
    · rw [h.others t' hne]
      exact hsub
  · intro t' q hq
    rw [hrange]
    by_cases hne : t' = t
    · rw [hne, hactivated] at hq
      cases hq
    · exact ha.known t' q (h.others t' hne ▸ hq)
  · rw [h.stack, hrange]
    exact ha.ranged
  · intro t' q epoch purpose hmem
    have hle := ha.past t' q epoch purpose (h.stack ▸ hmem)
    by_cases hne : t' = t
    · rw [hne] at hle ⊢
      omega
    · rw [h.others t' hne]
      exact hle
  · intro t'
    by_cases hne : t' = t
    · rw [hne, hnone, hsubscription]
      exact Nat.zero_le 1
    · rw [h.others t' hne, h.stack]
      exact ha.single t'
  · rw [h.stack]
    exact ha.matched
  · intro q
    have husers := users_apart h ht q
    rw [hactivated] at husers
    unfold surplus
    rw [hactivations, h.stack]
    by_cases hq : (e.timeline t).activated = some q
    · simp only [hq, if_true, reduceCtorEq, if_false] at husers ⊢
      omega
    · simp only [hq, if_false, reduceCtorEq] at husers ⊢
      omega

theorem mem_of_dropSubscription {subscription : Option (QueryId × SubscriptionId)}
    {s : SubscriptionId × Target} (h : s ∈ (e.dropSubscription subscription).subscriptions q) :
    s ∈ e.subscriptions q ∧ subscription ≠ some (q, s.1) := by
  cases subscription with
  | none => exact ⟨h, nofun⟩
  | some own =>
      obtain ⟨q', id⟩ := own
      by_cases hne : q = q'
      · subst hne
        by_cases hq : q < e.queries.length
        · have hfilter : s ∈ ((e.query q).registry.unsubscribe id).2.subscriptions := by
            unfold subscriptions dropSubscription at h
            rwa [query_modifyQuery_self hq] at h
          obtain ⟨hmem, hid⟩ := List.mem_filter.mp hfilter
          refine ⟨hmem, fun heq => ?_⟩
          have hsame : id = s.1 := (Prod.mk.inj (Option.some.inj heq)).2
          simp [hsame] at hid
        · have hle := Nat.le_of_not_lt hq
          simp [subscriptions, dropSubscription, modifyQuery, query, List.modify_eq_self hle,
            List.getElem?_eq_none hle, default] at h
      · have hsame : s ∈ e.subscriptions q := by
          unfold subscriptions dropSubscription at h
          rwa [query_modifyQuery_ne hne] at h
        refine ⟨hsame, fun heq => hne ?_⟩
        exact (Prod.mk.inj (Option.some.inj heq)).1.symm

theorem queries_dropSubscription (e : Engine) (subscription : Option (QueryId × SubscriptionId)) :
    (e.dropSubscription subscription).queries.length = e.queries.length ∧
      ∀ q, ((e.dropSubscription subscription).query q).activations = (e.query q).activations := by
  refine ⟨?_, (discreet_dropSubscription e subscription).activations⟩
  cases subscription with
  | none => rfl
  | some s => simp [dropSubscription, modifyQuery]

theorem push_append (e : Engine) (frames more : List Frame) :
    e.push (frames ++ more) = (e.push more).push frames := by
  simp [Engine.push]

-- A timeline that is stopped gives back what it had.
theorem accounts_endWork (ht : t < e.timelines.length) {f : Timeline → Timeline}
    (hactivated : (f (e.timeline t)).activated = none)
    (hsubscription : (f (e.timeline t)).subscription = none)
    (hepoch : (f (e.timeline t)).epoch = (e.timeline t).epoch + 1)
    (hframes : ∀ f ∈ frames, f.isDealing = false) :
    Accounts e (((e.endWork t).modifyTimeline t f).push
      (deactivations (e.timeline t).activated ++ frames)) := by
  intro ha
  have hb := background_abortWork e t
  obtain ⟨hrange, hactivations⟩ :=
    queries_dropSubscription (e.abortWork t) (e.timeline t).subscription
  have hT : ((e.endWork t).modifyTimeline t f).timeline t = f (e.timeline t) := by
    rw [timeline_modifyTimeline_self ((apart_endWork e t).size ▸ ht), timeline_endWork]
  have hapart : Apart t e ((e.endWork t).modifyTimeline t f) :=
    (apart_endWork e t).trans (within_modifyTimeline ..).toApart
  have hqueries : ((e.endWork t).modifyTimeline t f).queries.length = e.queries.length :=
    hrange.trans (by rw [hb.queries])
  obtain ⟨ha', hsurplus, -⟩ := ha.left ht hapart hqueries
    (fun q => (hactivations q).trans (by rw [hb.query])) (hT ▸ hactivated) (hT ▸ hsubscription)
    (hT ▸ hepoch) (fun q s hmem => by
      have hmem' := mem_of_dropSubscription (e := e.abortWork t) hmem
      unfold subscriptions at hmem' ⊢
      rwa [hb.query] at hmem')
  obtain ⟨ha'', hsame⟩ := (discreet_push _ hframes).accounts ha'
  rw [push_append]
  refine ⟨ha''.push_deactivations _ fun q hq => hqueries ▸ ha.known t q hq, fun q => ?_⟩
  rw [surplus_push, hsame, hsurplus, weigh_deactivations]
  split <;> omega

theorem accounts_teardown (ht : t < e.timelines.length) (frames : List Frame)
    (hframes : ∀ f ∈ frames, f.isDealing = false) :
    Accounts e ((e.teardown t).2.push (deactivations (e.timeline t).activated ++ frames)) := by
  rw [teardown_eq]
  exact accounts_endWork ht rfl rfl rfl hframes

theorem accounts_release (e : Engine) (target : Target) : Accounts e (e.release target) := by
  cases target with
  | observer o =>
      have hsame : Discreet e (e.release (.observer o)) :=
        discreet_of_timelines rfl rfl rfl fun _ => .refl _
      exact hsame.accounts
  | timeline t =>
      have hdrop : Discreet e (e.dropHold t) := discreet_modifyTimeline e ⟨rfl, rfl, rfl⟩
      rw [release_eq]
      split
      · rename_i hlast
        have ht : t < (e.dropHold t).timelines.length := by
          simpa [dropHold, modifyTimeline] using isLastHold_lt hlast
        have htorn := accounts_teardown ht [] fun _ hmem => absurd hmem List.not_mem_nil
        rw [List.append_nil] at htorn
        exact hdrop.accounts.trans htorn
      · exact hdrop.accounts

theorem accounts_close (e : Engine) (o : OperationId) (status : Status) :
    Accounts e (e.close o status) := by
  unfold close
  split
  · exact (discreet_setStatus ..).accounts.trans (accounts_release _ _)
  · exact .refl e

theorem accounts_deactivate (e : Engine) (t : TimelineId) : Accounts e (e.deactivate t) := by
  unfold deactivate
  split
  · rename_i hactive
    have htorn := accounts_teardown (lt_of_active hactive) [] nofun
    rwa [List.append_nil] at htorn
  · exact .refl e

theorem accounts_dispose (ht : t < e.timelines.length) : Accounts e (e.dispose t) := by
  rw [dispose_eq]
  split
  · exact .refl e
  · exact accounts_endWork ht rfl rfl rfl (by simp [Frame.isDealing])

theorem accounts_invalidate (e : Engine) (t : TimelineId) : Accounts e (e.invalidate t) := by
  unfold invalidate
  split
  · exact .refl e
  · exact (discreet_invalidateNow e t).accounts

-- The activation that is to come is for the attachment that follows.
omit [Patterns] in
theorem weigh_pair (t : TimelineId) (q q' : QueryId) (epoch : Nat) (purpose : Purpose) :
    weigh q' [.activate q, .attach t q epoch purpose] = 0 := by
  rw [weigh_cons, weigh_cons, weigh_nil]
  unfold Frame.weight
  dsimp only
  split <;> rfl

omit [Patterns] in
theorem matched_pair (t : TimelineId) (q q' : QueryId) (epoch : Nat) (purpose : Purpose) :
    Matched q' [.activate q, .attach t q epoch purpose] := by
  refine ⟨Int.le_of_eq (weigh_pair ..), ?_, trivial⟩
  rw [weigh_cons, weigh_nil]
  unfold Frame.weight
  dsimp only
  split <;> decide

-- A timeline that has nothing of its query, and is not about to, sets out to attach itself.
theorem Accounted.push_pair (ha : Accounted e e.stack) (hq : q < e.queries.length)
    (hsubscription : (e.timeline t).subscription = none)
    (hnone : e.stack.countP (Frame.attachesAt t (e.timeline t).epoch) = 0) (purpose : Purpose) :
    let frames : List Frame := [.activate q, .attach t q (e.timeline t).epoch purpose]
    Accounted (e.push frames) (e.push frames).stack := by
  refine ha.push ?_ (fun q' => matched_pair ..) ?_ fun t' => ?_
  · intro f hmem q' hweight
    simp only [List.mem_cons, List.not_mem_nil, or_false] at hmem
    by_cases hq' : q = q'
    · exact hq' ▸ hq
    · rcases hmem with rfl | rfl <;> exact absurd (if_neg hq') hweight
  · intro t' q' epoch purpose' hmem
    simp only [List.mem_cons, List.not_mem_nil, or_false, reduceCtorEq, false_or,
      Frame.attach.injEq] at hmem
    obtain ⟨rfl, -, rfl, -⟩ := hmem
    exact Nat.le_refl _
  · by_cases hne : t' = t
    · rw [hne, hnone, hsubscription]
      simp [Frame.attachesAt]
    · have hle := ha.single t'
      have hzero : List.countP (Frame.attachesAt t' (e.timeline t').epoch)
          [.activate q, .attach t q (e.timeline t).epoch purpose] = 0 := by
        simp [Frame.attachesAt, Ne.symm hne]
      rw [hzero, Nat.zero_add]
      exact hle

theorem surplus_push_pair (e : Engine) (t : TimelineId) (q q' : QueryId) (epoch : Nat)
    (purpose : Purpose) :
    (e.push [.activate q, .attach t q epoch purpose]).surplus q' = e.surplus q' := by
  rw [surplus_push, weigh_pair, Int.add_zero]

theorem accounts_setQuery (ht : t < e.timelines.length) {query : Option QueryId}
    (hquery : ∀ q, query = some q → q < e.queries.length) :
    Accounts e (e.setQuery t query).2 := by
  rw [setQuery_eq]
  split
  · exact .refl e
  intro ha
  have hleft := timeline_leaveQuery ht query
  obtain ⟨hrange, hactivations⟩ := queries_dropSubscription e (e.timeline t).subscription
  have hapart : Apart t e (e.leaveQuery t query) :=
    (apart_unsubscribe e t).trans (within_modifyTimeline ..).toApart
  obtain ⟨ha₁, hsurplus, hnone⟩ := ha.left ht hapart hrange hactivations (hleft ▸ rfl) (hleft ▸ rfl)
    (hleft ▸ rfl) fun q s hmem => mem_of_dropSubscription hmem
  have hd := discreet_invalidateNow (e.leaveQuery t query) t
  obtain ⟨ha₂, hsame⟩ := hd.accounts ha₁
  have hT := hd.timeline t
  have hepoch : (((e.leaveQuery t query).invalidateNow t).timeline t).epoch =
      (e.timeline t).epoch + 1 := by
    rw [hT.epoch, hleft]
    rfl
  have hstack : ((e.leaveQuery t query).invalidateNow t).stack = (e.leaveQuery t query).stack :=
    (within_invalidateNow _ t).stack
  have hknown (q : QueryId) (hq : q < e.queries.length) :
      q < ((e.leaveQuery t query).invalidateNow t).queries.length :=
    Nat.lt_of_lt_of_le (hrange.symm ▸ hq : q < (e.leaveQuery t query).queries.length) hd.range
  generalize (e.leaveQuery t query).invalidateNow t = e₂ at *
  have hattached : Accounted (e₂.push (attachment (e.timeline t) t query))
        (e₂.push (attachment (e.timeline t) t query)).stack ∧
      ∀ q, (e₂.push (attachment (e.timeline t) t query)).surplus q = e₂.surplus q := by
    cases query with
    | none => exact ⟨ha₂, fun _ => rfl⟩
    | some q =>
        unfold attachment
        dsimp only
        split
        · rw [← hepoch]
          refine ⟨ha₂.push_pair (hknown q (hquery q rfl)) ?_ ?_ .swap, fun q' => ?_⟩
          · rw [hT.subscription, hleft]
            rfl
          · rw [hT.epoch, hstack]
            exact hnone
          · exact surplus_push_pair ..
        · exact ⟨ha₂, fun _ => rfl⟩
  rw [push_append]
  refine ⟨hattached.1.push_deactivations _ fun q hq => hknown q (ha.known t q hq), fun q => ?_⟩
  rw [surplus_push, hattached.2, hsame, hsurplus, weigh_deactivations]
  split <;> omega

-- A timeline is brought to its query.

theorem subscription_none_of_attach (ha : Accounted e base) {purpose : Purpose}
    (hs : e.stack = .attach t q (e.timeline t).epoch purpose :: rest) :
    (e.timeline t).subscription = none ∧
      rest.countP (Frame.attachesAt t (e.timeline t).epoch) = 0 := by
  have hle := ha.single t
  rw [hs, List.countP_cons] at hle
  simp only [Frame.attachesAt, beq_self_eq_true, Bool.and_self, if_true] at hle
  refine ⟨?_, by omega⟩
  cases hsub : (e.timeline t).subscription with
  | none => rfl
  | some s =>
      rw [hsub, Option.toList_some, List.length_singleton] at hle
      omega

theorem mem_of_enrol {q' : QueryId} {s : SubscriptionId × Target}
    (h : s ∈ (e.enrol t q).subscriptions q') :
    s ∈ e.subscriptions q' ∨ q' = q ∧ s = ((e.query q).registry.nextId, .timeline t) := by
  obtain ⟨hmem, -⟩ := mem_of_dropSubscription (e := e.modifyQuery q _) h
  unfold subscriptions at hmem
  rcases query_modifyQuery e q q' fun query =>
    { query with registry := ((e.query q).registry.subscribe (.timeline t)).2 } with hQ | ⟨rfl, hQ⟩
  · rw [hQ] at hmem
    exact .inl hmem
  · rw [hQ] at hmem
    rcases List.mem_append.mp hmem with hmem | hmem
    · exact .inl hmem
    · exact .inr ⟨rfl, List.mem_singleton.mp hmem⟩

theorem queries_enrol (e : Engine) (t : TimelineId) (q : QueryId) :
    (e.enrol t q).queries.length = e.queries.length ∧
      ∀ q', ((e.enrol t q).query q').activations = (e.query q').activations := by
  have hsubscribed (q' : QueryId) : ((e.modifyQuery q fun query =>
      { query with
        registry := ((e.query q).registry.subscribe (.timeline t)).2 }).query q').activations =
          (e.query q').activations := by
    rcases query_modifyQuery e q q' fun query =>
      { query with registry := ((e.query q).registry.subscribe (.timeline t)).2 } with
      hQ | ⟨rfl, hQ⟩
    · rw [hQ]
    · rw [hQ]
  obtain ⟨hrange, hactivations⟩ := queries_dropSubscription (e.modifyQuery q fun query =>
    { query with registry := ((e.query q).registry.subscribe (.timeline t)).2 })
      (e.timeline t).subscription
  refine ⟨hrange.trans (by simp [modifyQuery]), fun q' => ?_⟩
  exact (hactivations q').trans (hsubscribed q')

-- What becomes of an engine whose next call brings a timeline to a query.
structure Enrolled (e : Engine) (t : TimelineId) (q : QueryId) (rest : List Frame) (e' : Engine) :
    Prop where
  stack : e'.stack = rest
  timeline : e'.timeline t =
    { e.timeline t with
      subscription := some (q, (e.query q).registry.nextId)
      activated := some q }
  others : ∀ t', t' ≠ t → e'.timeline t' = e.timeline t'
  subscriptions : ∀ q' s, s ∈ e'.subscriptions q' →
    s ∈ e.subscriptions q' ∨ q' = q ∧ s = ((e.query q).registry.nextId, .timeline t)
  size : e'.queries.length = e.queries.length
  activations : ∀ q', (e'.query q').activations = (e.query q').activations
  users : ∀ q', e'.users q' = e.users q' + if q = q' then 1 else 0

theorem enrolled_enrol (ht : t < e.timelines.length) (hnone : (e.timeline t).activated = none) :
    Enrolled e t q rest (({ e with stack := rest } : Engine).enrol t q) := by
  have hapart : Apart t { e with stack := rest } _ := apart_enrol { e with stack := rest } t q
  have hT := timeline_enrol (e := { e with stack := rest }) ht q
  obtain ⟨hsize, hactivations⟩ := queries_enrol { e with stack := rest } t q
  refine ⟨hapart.stack, hT, hapart.others, ?_, hsize, hactivations, fun q' => ?_⟩
  · exact fun q' s hmem => mem_of_enrol (e := { e with stack := rest }) hmem
  · have h := users_apart (e := { e with stack := rest }) hapart ht q'
    have hbefore : (({ e with stack := rest } : Engine).timeline t).activated = none := hnone
    have hsame : ({ e with stack := rest } : Engine).users q' = e.users q' := rfl
    rw [hT, hbefore, hsame] at h
    simpa using h

namespace Enrolled

variable {purpose : Purpose}

theorem paired (h : Enrolled e t q rest e') (ha : Accounted e base) (t' : TimelineId) :
    (e'.timeline t').activated = (e'.timeline t').subscription.map Prod.fst := by
  by_cases hne : t' = t
  · rw [hne, h.timeline]
    rfl
  · rw [h.others t' hne]
    exact ha.paired t'

-- The timeline had no subscription before, so that it does not leave one behind.
theorem owned (h : Enrolled e t q rest e') (ha : Accounted e base)
    (hnone : (e.timeline t).subscription = none) {q' : QueryId} {id : SubscriptionId}
    {t' : TimelineId} (hmem : (id, .timeline t') ∈ e'.subscriptions q') :
    (e'.timeline t').subscription = some (q', id) := by
  by_cases hne : t' = t
  · subst hne
    rcases h.subscriptions q' _ hmem with hold | ⟨rfl, hnew⟩
    · have hsub := ha.owned q' id t' hold
      rw [hnone] at hsub
      cases hsub
    · rw [h.timeline, (Prod.mk.inj hnew).1]
  · rw [h.others t' hne]
    rcases h.subscriptions q' _ hmem with hold | ⟨-, hnew⟩
    · exact ha.owned q' id t' hold
    · exact absurd (Target.timeline.inj (Prod.mk.inj hnew).2) hne

theorem known (h : Enrolled e t q rest e') (ha : Accounted e base) (hq : q < e.queries.length)
    {t' : TimelineId} {q' : QueryId} (hq' : (e'.timeline t').activated = some q') :
    q' < e'.queries.length := by
  rw [h.size]
  by_cases hne : t' = t
  · rw [hne, h.timeline] at hq'
    exact Option.some.inj hq' ▸ hq
  · exact ha.known t' q' (h.others t' hne ▸ hq')

theorem past (h : Enrolled e t q rest e') (ha : Accounted e base) {f : Frame}
    (hs : e.stack = f :: rest) {t' : TimelineId} {q' : QueryId} {epoch : Nat}
    (hmem : .attach t' q' epoch purpose ∈ e'.stack) : epoch ≤ (e'.timeline t').epoch := by
  have hold : .attach t' q' epoch purpose ∈ e.stack :=
    hs ▸ List.mem_cons_of_mem f (h.stack ▸ hmem)
  have hle := ha.past t' q' epoch purpose hold
  by_cases hne : t' = t
  · rw [hne, h.timeline]
    exact hne ▸ hle
  · rw [h.others t' hne]
    exact hle

-- The attachment that was under way is now the subscription.
theorem single (h : Enrolled e t q rest e') (ha : Accounted e base)
    (hs : e.stack = .attach t q (e.timeline t).epoch purpose :: rest)
    (hzero : rest.countP (Frame.attachesAt t (e.timeline t).epoch) = 0) (t' : TimelineId) :
    e'.stack.countP (Frame.attachesAt t' (e'.timeline t').epoch) +
      (e'.timeline t').subscription.toList.length ≤ 1 := by
  rw [h.stack]
  by_cases hne : t' = t
  · rw [hne, h.timeline]
    have hnow : rest.countP (Frame.attachesAt t (e.timeline t).epoch) +
        ((some (q, (e.query q).registry.nextId)).toList).length ≤ 1 := by
      rw [hzero]
      exact Nat.le_refl 1
    exact hnow
  · have hle := ha.single t'
    rw [hs, List.countP_cons] at hle
    rw [h.others t' hne]
    omega

theorem surplus (h : Enrolled e t q rest e')
    (hs : e.stack = .attach t q (e.timeline t).epoch purpose :: rest) (q' : QueryId) :
    e'.surplus q' = e.surplus q' := by
  have husers := h.users q'
  have hweight : weigh q' e.stack = (if q = q' then -1 else 0) + weigh q' rest := by
    rw [hs, weigh_cons]
    rfl
  unfold Engine.surplus
  rw [h.activations, h.stack, hweight]
  by_cases hqq : q = q'
  · simp only [hqq, if_true] at husers ⊢
    omega
  · simp only [hqq, if_false] at husers ⊢
    omega

end Enrolled

-- The attachment is handed over to the timeline.
theorem accounted_enrol (ha : Accounted e rest) (hw : Wired e) {epoch : Nat} {purpose : Purpose}
    (hs : e.stack = .attach t q epoch purpose :: rest) (hepoch : (e.timeline t).epoch = epoch) :
    Accounted (({ e with stack := rest } : Engine).enrol t q)
        (({ e with stack := rest } : Engine).enrol t q).stack ∧
      ∀ q', (({ e with stack := rest } : Engine).enrol t q).surplus q' = e.surplus q' := by
  have ht := attach_lt hw hs hepoch
  subst hepoch
  obtain ⟨hnone, hzero⟩ := subscription_none_of_attach ha hs
  have hactivated : (e.timeline t).activated = none := by
    rw [ha.paired t, hnone]
    rfl
  have hq : q < e.queries.length := by
    refine ha.ranged _ (hs ▸ List.mem_cons_self) q ?_
    simp [Frame.weight]
  have h : Enrolled e t q rest _ := enrolled_enrol ht hactivated
  have hranged (f : Frame) (hf : f ∈ rest) (q' : QueryId) (hweight : f.weight q' ≠ 0) :
      q' < e.queries.length := ha.ranged f (hs ▸ List.mem_cons_of_mem _ hf) q' hweight
  refine ⟨?_, h.surplus hs⟩
  exact {
    paired := h.paired ha
    owned := fun _ _ _ => h.owned ha hnone
    known := fun _ _ => h.known ha hq
    ranged := fun f hf q' hweight => h.size ▸ hranged f (h.stack ▸ hf) q' hweight
    past := fun _ _ _ _ => h.past ha hs
    single := h.single ha hs hzero
    matched := by
      rw [h.stack]
      exact ha.matched }

-- Activations are added and taken back.

theorem surplus_modifyQuery (e : Engine) (q q' : QueryId) (f : Query Target → Query Target) :
    (e.modifyQuery q f).surplus q' =
      e.surplus q' + (((e.modifyQuery q f).query q').activations - (e.query q').activations) := by
  have husers : (e.modifyQuery q f).users q' = e.users q' := rfl
  have hstack : (e.modifyQuery q f).stack = e.stack := rfl
  unfold surplus
  rw [husers, hstack]
  omega

theorem Accounted.modifyQuery (ha : Accounted e base) {f : Query Target → Query Target}
    (hregistry : (f (e.query q)).registry = (e.query q).registry) :
    Accounted (e.modifyQuery q f) base := by
  have hsize : (e.modifyQuery q f).queries.length = e.queries.length := by
    simp [Engine.modifyQuery]
  refine ⟨ha.paired, ?_, ?_, ?_, ha.past, ha.single, ha.matched⟩
  · intro q' id t hmem
    refine ha.owned q' id t ?_
    unfold subscriptions at hmem ⊢
    rcases query_modifyQuery e q q' f with hQ | ⟨rfl, hQ⟩
    · rwa [hQ] at hmem
    · rwa [hQ, hregistry] at hmem
  · rw [hsize]
    exact ha.known
  · rw [hsize]
    exact ha.ranged

theorem accounted_addActivation (ha : Accounted e e.stack) (hq : q < e.queries.length) :
    Accounted (e.addActivation q) (e.addActivation q).stack ∧
      ∀ q', (e.addActivation q).surplus q' = e.surplus q' + if q = q' then 1 else 0 := by
  have ha' := ha.modifyQuery (q := q)
    (f := fun query => { query with activations := query.activations + 1 }) rfl
  obtain ⟨ha'', hsame⟩ := (discreet_toggled _ q).accounts ha'
  refine ⟨ha'', fun q' => ?_⟩
  have hsame : (e.addActivation q).surplus q' = _ := hsame q'
  rw [hsame, surplus_modifyQuery]
  by_cases hne : q = q'
  · subst hne
    rw [query_modifyQuery_self hq, if_pos rfl]
    dsimp only
    omega
  · rw [query_modifyQuery_ne (Ne.symm hne), if_neg hne]
    omega

theorem accounted_removeActivation (ha : Accounted e e.stack) (hq : q < e.queries.length) :
    Accounted (e.removeActivation q) (e.removeActivation q).stack ∧
      ∀ q', (q = q' → 0 < (e.query q).activations) →
        (e.removeActivation q).surplus q' = e.surplus q' + if q = q' then -1 else 0 := by
  unfold removeActivation
  split
  · have ha' := ha.modifyQuery (q := q)
      (f := fun query => { query with activations := query.activations - 1 }) rfl
    obtain ⟨ha'', hsame⟩ := (discreet_toggled _ q).accounts ha'
    refine ⟨ha'', fun q' hactive => ?_⟩
    rw [hsame q', surplus_modifyQuery]
    by_cases hne : q = q'
    · subst hne
      have hpos := hactive rfl
      rw [query_modifyQuery_self hq, if_pos rfl]
      dsimp only
      omega
    · rw [query_modifyQuery_ne (Ne.symm hne), if_neg hne]
      omega
  · rename_i hinactive
    refine ⟨ha, fun q' hactive => ?_⟩
    have hne : q ≠ q' := fun heq => hinactive (decide_eq_true (hactive heq))
    rw [if_neg hne, Int.add_zero]

-- A frame is taken from the stack.

theorem Accounted.pop {f : Frame} (ha : Accounted e rest) (hs : e.stack = f :: rest) :
    Accounted { e with stack := rest } rest where
  paired := ha.paired
  owned := ha.owned
  known := ha.known
  ranged f' hmem := ha.ranged f' (hs ▸ List.mem_cons_of_mem _ hmem)
  past t q epoch purpose hmem := ha.past t q epoch purpose (hs ▸ List.mem_cons_of_mem _ hmem)
  single t := by
    have hle := ha.single t
    rw [hs, List.countP_cons] at hle
    have hT : ({ e with stack := rest } : Engine).timeline t = e.timeline t := rfl
    rw [hT]
    dsimp only
    omega
  matched := ha.matched

theorem surplus_pop {f : Frame} (hs : e.stack = f :: rest) (q : QueryId) :
    ({ e with stack := rest } : Engine).surplus q = e.surplus q - f.weight q := by
  have hquery : ({ e with stack := rest } : Engine).query q = e.query q := rfl
  have husers : ({ e with stack := rest } : Engine).users q = e.users q := rfl
  unfold surplus
  rw [hquery, husers, hs, weigh_cons]
  dsimp only
  omega

-- What is to be given back was activated.
theorem activations_pos (ha : Accounted e rest) (hs : e.stack = .deactivate q :: rest)
    (hhost : 0 ≤ e.surplus q) : 0 < (e.query q).activations := by
  have hle := (ha.matched q).weigh_nonpos
  unfold surplus at hhost
  rw [hs, weigh_cons] at hhost
  simp only [Frame.weight, if_true] at hhost
  omega

-- An attachment that is given up gives its activation back.
theorem accounted_backOut (ha : Accounted e rest) {epoch : Nat} {purpose : Purpose}
    (hs : e.stack = .attach t q epoch purpose :: rest) (frames : List Frame)
    (hframes : ∀ f ∈ frames, f.isDealing = false) :
    let e' := ({ e with stack := rest } : Engine).push (.deactivate q :: frames)
    Accounted e' e'.stack ∧ ∀ q', e'.surplus q' = e.surplus q' := by
  have hq : q < e.queries.length := by
    refine ha.ranged _ (hs ▸ List.mem_cons_self) q ?_
    simp [Frame.weight]
  obtain ⟨ha', hsame⟩ := (discreet_push { e with stack := rest } hframes).accounts (ha.pop hs)
  refine ⟨?_, fun q' => ?_⟩
  · exact Accounted.push_deactivations ha' (some q) fun _ heq =>
      Option.some.inj heq ▸ hq
  · have hpush := surplus_push (({ e with stack := rest } : Engine).push frames) [.deactivate q] q'
    refine hpush.trans ?_
    rw [hsame, surplus_pop hs, weigh_cons, weigh_nil]
    unfold Frame.weight
    dsimp only
    omega

theorem accounted_attach (ha : Accounted e rest) (hw : Wired e) {epoch : Nat} {purpose : Purpose}
    (hs : e.stack = .attach t q epoch purpose :: rest) :
    let e' := ({ e with stack := rest } : Engine).attach t q epoch purpose
    Accounted e' e'.stack ∧ ∀ q', e'.surplus q' = e.surplus q' := by
  dsimp only
  rw [attach_eq]
  by_cases hepoch : (({ e with stack := rest } : Engine).timeline t).epoch = epoch
  · rw [if_neg (not_not_intro hepoch)]
    obtain ⟨henrol, hsame⟩ := accounted_enrol ha hw hs hepoch
    cases purpose with
    | swap =>
        obtain ⟨hafter, hsame'⟩ := (discreet_refresh _ t).accounts henrol
        exact ⟨hafter, fun q' => (hsame' q').trans (hsame q')⟩
    | activation o generation =>
        obtain ⟨hafter, hsame'⟩ := (discreet_prepare _ t o generation).accounts henrol
        exact ⟨hafter, fun q' => (hsame' q').trans (hsame q')⟩
  · rw [if_pos hepoch]
    cases purpose with
    | swap => exact accounted_backOut ha hs [] nofun
    | activation o generation =>
        exact accounted_backOut ha hs [.finish o (.ok .activated)]
          (by simp [Frame.isDealing])

-- A step hands on what the first call of the stack has to do with activations. It can fail to do so
-- only if others have taken back more than they had.
theorem accounted_perform (ha : Accounted e rest) (hw : Wired e) {f : Frame}
    (hs : e.stack = f :: rest) :
    let e' := ({ e with stack := rest } : Engine).perform f
    Accounted e' e'.stack ∧ ∀ q, 0 ≤ e.surplus q → e'.surplus q = e.surplus q := by
  have ha' := ha.pop hs
  have hsurplus := surplus_pop hs
  have hranged := ha.ranged f (hs ▸ List.mem_cons_self)
  have hplain (h : Accounts { e with stack := rest } (({ e with stack := rest } : Engine).perform f))
      (hweight : ∀ q, f.weight q = 0) :
      Accounted (({ e with stack := rest } : Engine).perform f)
          (({ e with stack := rest } : Engine).perform f).stack ∧
        ∀ q, 0 ≤ e.surplus q →
          (({ e with stack := rest } : Engine).perform f).surplus q = e.surplus q := by
    obtain ⟨hafter, hsame⟩ := h ha'
    refine ⟨hafter, fun q _ => ?_⟩
    rw [hsame, hsurplus, hweight]
    exact Int.sub_zero _
  cases f with
  | activate q =>
      have hq := hranged q (by simp [Frame.weight])
      obtain ⟨hafter, hsame⟩ := accounted_addActivation ha' hq
      refine ⟨hafter, fun q' _ => (hsame q').trans ?_⟩
      rw [hsurplus]
      unfold Frame.weight
      dsimp only
      split <;> omega
  | deactivate q =>
      have hq := hranged q (by simp [Frame.weight])
      obtain ⟨hafter, hsame⟩ :=
        accounted_removeActivation (e := { e with stack := rest }) ha' hq
      refine ⟨hafter, fun q' hhost => ?_⟩
      have hpos (heq : q = q') : 0 < (e.query q).activations :=
        activations_pos ha hs (heq ▸ hhost)
      refine (hsame q' hpos).trans ?_
      rw [hsurplus]
      unfold Frame.weight
      dsimp only
      split <;> omega
  | announce q revision => exact hplain (discreet_announce _ q revision).accounts fun _ => rfl
  | rounds q => exact hplain (discreet_continueRounds _ q).accounts fun _ => rfl
  | call target revision =>
      refine hplain ?_ fun _ => rfl
      cases target with
      | timeline t => exact (discreet_onInvalidated _ t revision).accounts
      | observer o => exact (discreet_push _ (by simp [Frame.isDealing])).accounts
  | observer o revision => exact hplain (.refl _) fun _ => rfl
  | release target => exact hplain (accounts_release _ target) fun _ => rfl
  | attach t q epoch purpose =>
      obtain ⟨hafter, hsame⟩ := accounted_attach ha hw hs
      exact ⟨hafter, fun q' _ => hsame q'⟩
  | emit t delta => exact hplain (discreet_emit _ t delta).accounts fun _ => rfl
  | finish o result => exact hplain (accounts_close _ o _) fun _ => rfl

-- Operations and tasks.

theorem accounts_complete (hw : Wired e) (o : OperationId)
    (result : Except StorageError (List Item)) : Accounts e (e.complete o result) := by
  cases completes e o result with
  | unasked hnone heq =>
      rw [heq]
      exact .refl e
  | ended hop hwhy heq =>
      rw [heq]
      exact accounts_close e o _
  | @merged t kind r items phase outcome hop hg hphase heq =>
      have hsame : (e.timeline t).SameAccount { e.timeline t with phase } := ⟨rfl, rfl, rfl⟩
      rw [heq]
      refine Accounts.trans (discreet_modifyTimeline e ?_).accounts (accounts_close _ o _)
      exact hsame.trans (sameAccount_absorb _ items)
  | @rolledBack t r cause hop hg heq =>
      have ht : t < (e.setStatus o .running).timelines.length :=
        lt_of_active (e := e) (((hw.bound t).begun o r hop).2 hg)
      have htorn := accounts_teardown ht [.finish o (.error (.fetch cause))] (by simp [Frame.isDealing])
      rw [heq]
      exact (discreet_setStatus e o .running).accounts.trans htorn

theorem accounts_cancel (e : Engine) (o : OperationId) : Accounts e (e.cancel o) := by
  unfold cancel
  split
  · exact accounts_close e o _
  · exact .refl e

theorem discreet_completeTask (e : Engine) (k : TaskId)
    (result : Except StorageError (List Item)) : Discreet e (e.completeTask k result) := by
  cases replenishes e k result with
  | background hb => exact hb.discreet
  | @filled t r items e₁ hasks halive hg hb heq =>
      rw [heq]
      have hreplenished : (e₁.timeline t).SameAccount (replenished (e₁.timeline t)) :=
        ⟨rfl, rfl, rfl⟩
      refine hb.discreet.trans (discreet_modifyTimeline e₁ (hreplenished.trans ?_))
      exact sameAccount_absorb ..
  | failed hasks halive hg hb heq =>
      rw [heq]
      exact hb.discreet.trans (discreet_modifyTimeline _ ⟨rfl, rfl, rfl⟩)

theorem discreet_turn (e : Engine) (k : TaskId) : Discreet e (e.turn k) := by
  cases polls e k with
  | background hb => exact hb.discreet
  | offered htask halive hitem hb heq =>
      rw [heq]
      exact hb.discreet.trans (discreet_offer ..)
  | lagged htask halive hactive hmissed hb heq =>
      rw [heq]
      exact hb.discreet.trans (discreet_startRefetch ..)

theorem accounts_startPage (e : Engine) (t : TimelineId) (before : Option ItemId) (limit : Nat) :
    Accounts e (e.startPage t before limit).2 := by
  have hadd := discreet_addOperation e t .page
  unfold startPage
  dsimp only
  split
  · exact hadd.accounts.trans (accounts_close _ _ _)
  · exact (hadd.trans (discreet_setStatus ..)).accounts

-- A timeline that begins to be activated is not subscribed.
theorem accounts_startActivation (hw : Wired e) (hstack : e.stack = []) (t : TimelineId)
    (hasRuntime : Bool) : Accounts e (e.startActivation t hasRuntime).2 := by
  have hadd := discreet_addOperation e t .activation
  rcases startActivation_cases e t hasRuntime with ⟨hinactive, -, heq⟩ | ⟨-, result, heq⟩
  · rw [heq]
    refine hadd.accounts.trans ?_
    have hstack' : (e.addOperation t .activation).2.stack = [] := hstack
    have hsubscription : ((e.addOperation t .activation).2.timeline t).subscription = none := by
      rw [(hadd.timeline t).subscription]
      cases hsub : (e.timeline t).subscription with
      | none => rfl
      | some s =>
          have hactive := ((hw.bound t).subscribed s.1 s.2 hsub).1
          rw [hinactive] at hactive
          cases hactive
    have hknown (q : QueryId) (hq : ((e.addOperation t .activation).2.timeline t).query = some q) :
        q < (e.addOperation t .activation).2.queries.length := by
      obtain ⟨holders, hT⟩ := timeline_retain
        { e with operations := e.operations ++
          [{ timeline := t, kind := .activation, status := .running }] } t t
      have hT : (e.addOperation t .activation).2.timeline t = { e.timeline t with holders } := hT
      rw [hT] at hq
      exact (hw.bound t).known q hq
    generalize (e.addOperation t .activation).2 = e' at *
    have hlaunch := discreet_launch e' t
    unfold launched
    split
    · rename_i q hq
      intro ha
      obtain ⟨ha', hsame⟩ := hlaunch.accounts ha
      have hepoch := (hlaunch.timeline t).epoch
      have hpair := ha'.push_pair (t := t) (Nat.lt_of_lt_of_le (hknown q hq) hlaunch.range)
        ((hlaunch.timeline t).subscription.trans hsubscription)
        (by rw [show (e'.launch t).stack = e'.stack from rfl, hstack']; rfl)
        (.activation e.operations.length ((e'.timeline t).generation + 1))
      rw [hepoch] at hpair
      exact ⟨hpair, fun q' => (surplus_push_pair ..).trans (hsame q')⟩
    · exact hlaunch.accounts.trans (discreet_prepare _ t _ _).accounts
  · rw [heq]
    exact hadd.accounts.trans (accounts_close _ _ _)

theorem discreet_addTimeline (e : Engine) (config : Config) (storage : StorageId)
    (stream : StreamId) (query : Option QueryId) (hasSink : Bool) :
    Discreet e (e.addTimeline config storage stream query hasSink).2 := by
  unfold addTimeline
  dsimp only
  generalize hnew : ({ config, storage, stream, query, hasSink, buffer := .empty config.maxItems } :
    Timeline) = new
  refine Discreet.trans ?_ (discreet_recompile _ _)
  have hmade : SameAccount default new := hnew ▸ ⟨rfl, rfl, rfl⟩
  refine ⟨fun t => ?_, fun q => ?_, fun _ => rfl, Nat.le_refl _, fun _ _ _ => id, [], rfl, nofun⟩
  · rw [timeline_append]
    split
    · rename_i ht
      rw [timeline_of_le (Nat.le_of_eq ht.symm)]
      exact hmade
    · exact .refl _
  · have hnone : new.activated = none := hmade.activated
    simp [users, hnone]

theorem discreet_addQuery (e : Engine) (expr : Expr) (source : Option String) :
    Discreet e (e.addQuery { expr, source }).2 := by
  have hsame (q : QueryId) :
      ((e.addQuery { expr, source }).2.query q).activations = (e.query q).activations ∧
        ((e.addQuery { expr, source }).2.query q).registry = (e.query q).registry := by
    by_cases hq : q < e.queries.length
    · rw [query_append hq]
      exact ⟨rfl, rfl⟩
    · have hle := Nat.le_of_not_lt hq
      simp only [addQuery, query, List.getElem?_append_right hle, List.getElem?_eq_none hle]
      cases q - e.queries.length <;> exact ⟨rfl, rfl⟩
  refine ⟨fun _ => .refl _, fun _ => rfl, fun q => (hsame q).1, ?_, ?_, [], rfl,
    fun _ hmem => absurd hmem List.not_mem_nil⟩
  · simp [addQuery]
  · intro q id t hmem
    unfold subscriptions at hmem ⊢
    rwa [(hsame q).2] at hmem

end FilteredFeed.Engine
