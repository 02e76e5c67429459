import FilteredFeed.Listener.Registry

namespace FilteredFeed.Listener.Registry

variable {τ : Type} {r : Registry τ}

-- What holds of every registry: subscriptions have different numbers, all used up, and a request
-- is put off only during a round.
structure Orderly (r : Registry τ) : Prop where
  used : ∀ s ∈ r.subscriptions, s.1 < r.nextId
  distinct : r.subscriptions.Pairwise fun s s' => s.1 ≠ s'.1
  pending : r.pending.isSome = true → r.round.isSome = true

theorem orderly_init : Orderly ({} : Registry τ) where
  used s hs := by cases hs
  distinct := List.Pairwise.nil
  pending h := h

-- Two subscriptions of one number are the same.
theorem Orderly.eq_of_id (h : r.Orderly) {id : SubscriptionId} {a b : τ}
    (ha : (id, a) ∈ r.subscriptions) (hb : (id, b) ∈ r.subscriptions) : a = b := by
  obtain ⟨i, hi, hai⟩ := List.mem_iff_getElem.mp ha
  obtain ⟨j, hj, hbj⟩ := List.mem_iff_getElem.mp hb
  have hdistinct := List.pairwise_iff_getElem.mp h.distinct
  rcases Nat.lt_trichotomy i j with hlt | rfl | hlt
  · have hne := hdistinct i j hi hj hlt
    rw [hai, hbj] at hne
    exact absurd rfl hne
  · exact (Prod.mk.inj (hai.symm.trans hbj)).2
  · have hne := hdistinct j i hj hi hlt
    rw [hai, hbj] at hne
    exact absurd rfl hne

theorem Orderly.subscribe (h : r.Orderly) (listener : τ) : (r.subscribe listener).2.Orderly where
  used s hs := by
    rcases List.mem_append.mp hs with hs | hs
    · exact Nat.lt_succ_of_lt (h.used s hs)
    · obtain rfl := List.mem_singleton.mp hs
      exact Nat.lt_succ_self _
  distinct := by
    refine List.pairwise_append.mpr ⟨h.distinct, List.pairwise_singleton _ _, ?_⟩
    intro s hs s' hs'
    obtain rfl := List.mem_singleton.mp hs'
    exact Nat.ne_of_lt (h.used s hs)
  pending := h.pending

theorem Orderly.unsubscribe (h : r.Orderly) (id : SubscriptionId) : (r.unsubscribe id).2.Orderly where
  used s hs := h.used s (List.mem_filter.mp hs).1
  distinct := h.distinct.filter _
  pending := h.pending

theorem Orderly.startRound (h : r.Orderly) (alive : τ → Bool) (revision : Nat) :
    (r.startRound alive revision).Orderly where
  used s hs := h.used s (List.mem_filter.mp hs).1
  distinct := h.distinct.filter _
  pending _ := rfl

theorem Orderly.request (h : r.Orderly) (alive : τ → Bool) (revision : Nat) :
    (r.request alive revision).Orderly := by
  unfold Registry.request
  split
  · rename_i round hround
    exact ⟨h.used, h.distinct, fun _ => by simp [hround]⟩
  · exact h.startRound alive revision

theorem Orderly.advance (h : r.Orderly) (alive : τ → Bool) : (r.advance alive).2.Orderly := by
  unfold Registry.advance
  split
  · exact h
  · exact ⟨h.used, h.distinct, fun _ => rfl⟩
  · split
    · have hnone : Orderly { r with pending := none } := ⟨h.used, h.distinct, nofun⟩
      exact hnone.startRound alive _
    · rename_i hpending
      exact ⟨h.used, h.distinct, fun hsome => by simp [hpending] at hsome⟩

-- A round, new or to come, is for everybody who is alive and subscribed.
theorem mem_startRound {alive : τ → Bool} {revision : Nat} {id : SubscriptionId} {listener : τ}
    (h : (id, listener) ∈ r.subscriptions) (halive : alive listener = true) :
    (id, listener) ∈ (r.startRound alive revision).subscriptions ∧
      listener ∈ (r.startRound alive revision).waiting := by
  have hmem : (id, listener) ∈ r.subscriptions.filter fun s => alive s.2 :=
    List.mem_filter.mpr ⟨h, halive⟩
  exact ⟨hmem, List.mem_map.mpr ⟨_, hmem, rfl⟩⟩

theorem mem_unsubscribe {id id' : SubscriptionId} {listener : τ}
    (h : (id, listener) ∈ r.subscriptions) (hne : id ≠ id') :
    (id, listener) ∈ (r.unsubscribe id').2.subscriptions :=
  List.mem_filter.mpr ⟨h, by simpa using hne⟩

-- Asking for a notification.

variable {alive : τ → Bool} {revision : Nat} {id : SubscriptionId} {listener : τ}

theorem request_of_round {round : Round τ} (h : r.round = some round) :
    r.request alive revision =
      { r with pending := some (r.pending.elim revision (max revision)) } := by
  simp only [request, h]

theorem request_of_none (h : r.round = none) :
    r.request alive revision = r.startRound alive revision := by
  simp only [request, h]

theorem mem_request (h : (id, listener) ∈ r.subscriptions) (halive : alive listener = true) :
    (id, listener) ∈ (r.request alive revision).subscriptions := by
  cases hround : r.round with
  | some round => rwa [request_of_round hround]
  | none =>
      rw [request_of_none hround]
      exact (mem_startRound h halive).1

-- Who is alive and subscribed is called, or will be.
theorem told_request (h : (id, listener) ∈ r.subscriptions) (halive : alive listener = true) :
    listener ∈ (r.request alive revision).waiting ∨
      (r.request alive revision).pending.isSome = true := by
  cases hround : r.round with
  | some round =>
      rw [request_of_round hround]
      exact .inr rfl
  | none =>
      rw [request_of_none hround]
      exact .inl (mem_startRound h halive).2

theorem waiting_request (h : listener ∈ r.waiting) :
    listener ∈ (r.request alive revision).waiting := by
  cases hround : r.round with
  | some round => rwa [request_of_round hround]
  | none => simp [waiting, hround] at h

-- Going on with a notification.

theorem mem_advance (h : (id, listener) ∈ r.subscriptions) (halive : alive listener = true) :
    (id, listener) ∈ (r.advance alive).2.subscriptions := by
  unfold advance
  split
  · exact h
  · exact h
  · split
    · exact (mem_startRound (r := { r with pending := none }) h halive).1
    · exact h

-- Who waits is called next, or goes on waiting.
theorem waiting_advance (h : listener ∈ r.waiting) :
    (∃ revision, (r.advance alive).1 = .call listener revision) ∨
      listener ∈ (r.advance alive).2.waiting := by
  unfold waiting at h
  unfold advance
  cases hround : r.round with
  | none => simp [hround] at h
  | some round =>
      obtain ⟨revision, listeners⟩ := round
      cases listeners with
      | nil => simp [hround] at h
      | cons next rest =>
          simp only [hround, Option.elim_some, List.mem_cons] at h
          rcases h with rfl | h
          · exact .inl ⟨revision, rfl⟩
          · exact .inr h

-- What was put off stays so, or starts a round.
theorem pending_advance (horderly : r.Orderly) (h : r.pending.isSome = true)
    (hmem : (id, listener) ∈ r.subscriptions) (halive : alive listener = true) :
    (r.advance alive).2.pending.isSome = true ∨ listener ∈ (r.advance alive).2.waiting := by
  obtain ⟨⟨revision, listeners⟩, hround⟩ := Option.isSome_iff_exists.mp (horderly.pending h)
  obtain ⟨requested, hpending⟩ := Option.isSome_iff_exists.mp h
  unfold advance
  cases listeners with
  | cons next rest => exact .inl (by simp [hround, hpending])
  | nil =>
      simp only [hround, hpending]
      exact .inr (mem_startRound (r := { r with pending := none }) hmem halive).2

-- After the last round there is none.
theorem round_advance (h : (r.advance alive).1 = .done) : (r.advance alive).2.round = none := by
  unfold advance at h ⊢
  cases hround : r.round with
  | none => simp [hround]
  | some round =>
      obtain ⟨revision, listeners⟩ := round
      cases listeners with
      | cons next rest => simp [hround] at h
      | nil =>
          cases hpending : r.pending with
          | some requested => simp [hround, hpending] at h
          | none => simp

end FilteredFeed.Listener.Registry
