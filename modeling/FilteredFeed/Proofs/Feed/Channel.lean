import FilteredFeed.Feed.Channel

namespace FilteredFeed.Feed

theorem roundUp_pos (n : Nat) : 0 < roundUp n := by
  have hgo (room power : Nat) (hpower : 0 < power) : 0 < roundUp.go n room power := by
    induction room generalizing power with
    | zero => exact hpower
    | succ room ih =>
        unfold roundUp.go
        split
        · exact hpower
        · exact ih (2 * power) (by omega)
  exact hgo n 1 Nat.one_pos

theorem le_roundUp (n : Nat) : n ≤ roundUp n := by
  have hgo (room power : Nat) (hreach : n ≤ 2 ^ room * power) : n ≤ roundUp.go n room power := by
    induction room generalizing power with
    | zero =>
        rw [Nat.pow_zero, Nat.one_mul] at hreach
        exact hreach
    | succ room ih =>
        unfold roundUp.go
        split
        · assumption
        · refine ih (2 * power) ?_
          rwa [← Nat.mul_assoc, ← Nat.pow_succ]
  exact hgo n 1 (by simpa using Nat.le_of_lt Nat.lt_two_pow_self)

namespace Channel

-- Nobody gets a channel of more places than there is memory for.
theorem opens_eq_false {room n : Nat} (h : room < n) : opens room n = false := by
  have hle : n ≤ (ofCapacity n).capacity := Nat.le_trans (Nat.le_max_left n 1) (le_roundUp _)
  have hbeyond : ¬ (ofCapacity n).capacity ≤ room := by omega
  simp [opens, hbeyond]

variable {c : Channel} {key : Nat} {pending : List Item}

-- The only receiver of an open channel is still to get some items, oldest first. Of these the
-- channel keeps the newest.
structure Brings (c : Channel) (key : Nat) (pending : List Item) : Prop where
  isOpen : c.closed = false
  room : 0 < c.capacity
  length_le : pending.length ≤ c.sent
  receivers : c.receivers = [(key, c.sent - pending.length)]
  kept_le : c.items.length ≤ c.sent
  kept : c.items.take pending.length = pending.reverse.take c.items.length

theorem Brings.backlog (h : c.Brings key pending) : c.backlog key = pending.length := by
  have hle := h.length_le
  simp only [Channel.backlog, h.receivers, List.lookup_cons, beq_self_eq_true, Option.getD_some]
  omega

theorem brings_subscribe (capacity key : Nat) :
    ((Channel.ofCapacity capacity).subscribe key).Brings key [] :=
  ⟨rfl, roundUp_pos _, Nat.zero_le _, rfl, Nat.zero_le _, rfl⟩

theorem Brings.send (h : c.Brings key pending) (item : Item) :
    (c.send item).Brings key (pending ++ [item]) := by
  have hsome : c.receivers.isEmpty = false := by simp [h.receivers]
  have hsend : c.send item =
      { c with
        items := (item :: c.items).take c.capacity
        sent := c.sent + 1
        waiting := [] } := by
    simp [Channel.send, hsome]
  obtain ⟨n, hn⟩ : ∃ n, c.capacity = n + 1 := Nat.exists_eq_add_one.mpr h.room
  have hle := h.length_le
  have hkept_le := h.kept_le
  rw [hsend]
  refine ⟨h.isOpen, h.room, ?_, ?_, ?_, ?_⟩
  · simpa using hle
  · simpa using h.receivers
  · simp only [List.length_take, List.length_cons]
    omega
  · -- what is kept of the longer list is the new item with what is kept of the others
    simp only [hn, List.length_take, List.length_append, List.length_cons, List.length_nil,
      List.reverse_append, List.reverse_cons, List.reverse_nil, List.nil_append,
      List.singleton_append, List.take_succ_cons, Nat.zero_add]
    rw [List.take_take, Nat.min_comm, ← List.take_take, h.kept, List.take_take, Nat.min_comm]

theorem receivers_moveTo {position : Nat} (hreceivers : c.receivers = [(key, position)])
    (position' : Nat) : (c.moveTo key position').receivers = [(key, position')] := by
  simp [moveTo, hreceivers]

-- With nothing pending the receiver waits.
theorem Brings.receive_nothing (h : c.Brings key []) :
    ∃ c', c.receive key = (.nothing, c') ∧ c'.Brings key [] := by
  refine ⟨{ c with waiting := c.waiting ++ [key] }, ?_, { h with }⟩
  have hlookup : c.receivers.lookup key = some c.sent := by simp [h.receivers]
  unfold Channel.receive
  rw [hlookup]
  simp [h.isOpen, Nat.not_lt.mpr (Nat.sub_le ..)]

-- While everything pending is kept, the receiver gets the oldest.
theorem Brings.receive_item {item : Item} {rest : List Item} (h : c.Brings key (item :: rest))
    (hle : (item :: rest).length ≤ c.items.length) :
    ∃ c', c.receive key = (.item item, c') ∧ c'.Brings key rest := by
  have hsent := h.length_le
  have hkept_le := h.kept_le
  have hkept : c.items.take (rest.length + 1) = rest.reverse ++ [item] := by
    have hall : (item :: rest).reverse.take c.items.length = (item :: rest).reverse :=
      List.take_of_length_le (by simpa using hle)
    rw [← List.reverse_cons, ← hall]
    exact h.kept
  simp only [List.length_cons] at hle hsent
  refine ⟨c.moveTo key (c.sent - rest.length), ?_, ?_⟩
  · have hlookup : c.receivers.lookup key = some (c.sent - (rest.length + 1)) := by
      simp [h.receivers]
    have hindex : c.sent - 1 - (c.sent - (rest.length + 1)) = rest.length := by omega
    have hnext : c.sent - (rest.length + 1) + 1 = c.sent - rest.length := by omega
    have hitem : c.items[rest.length]? = some item := by
      rw [← List.getElem?_take_of_lt (Nat.lt_succ_self rest.length), hkept]
      simp
    unfold Channel.receive
    rw [hlookup]
    dsimp only
    rw [if_neg (by omega), if_pos (by omega), hindex, hitem]
    dsimp only
    rw [hnext]
  · refine ⟨h.isOpen, h.room, by show _ ≤ c.sent; omega, receivers_moveTo h.receivers _,
      h.kept_le, ?_⟩
    have hrest : c.items.take rest.length = rest.reverse := by
      rw [← Nat.min_eq_left (Nat.le_succ rest.length), ← List.take_take, hkept]
      simp
    have hfew : rest.reverse.take c.items.length = rest.reverse :=
      List.take_of_length_le (by rw [List.length_reverse]; omega)
    exact hrest.trans hfew.symm

-- A receiver misses what is pending and not kept, and is told how much it is.
theorem Brings.receive_lagged (h : c.Brings key pending)
    (hlt : c.items.length < pending.length) :
    ∃ missed rest c', pending = missed ++ rest ∧ missed ≠ [] ∧
      c.receive key = (.lagged missed.length, c') ∧ c'.Brings key rest := by
  have hsent := h.length_le
  have hkept_le := h.kept_le
  let lost := pending.length - c.items.length
  have hlost : (pending.take lost).length = lost := by
    rw [List.length_take]
    omega
  have hrest : (pending.drop lost).length = c.items.length := by
    rw [List.length_drop]
    omega
  refine ⟨pending.take lost, pending.drop lost, c.moveTo key (c.sent - c.items.length),
    (List.take_append_drop ..).symm, ?_, ?_, ?_⟩
  · exact List.ne_nil_of_length_pos (by omega)
  · have hlookup : c.receivers.lookup key = some (c.sent - pending.length) := by
      simp [h.receivers]
    have hmissed : c.sent - c.items.length - (c.sent - pending.length) = lost := by omega
    unfold Channel.receive
    rw [hlookup]
    dsimp only
    rw [if_pos (by omega), hmissed, hlost]
  · refine ⟨h.isOpen, h.room, by rw [hrest]; exact h.kept_le, ?_, h.kept_le, ?_⟩
    · rw [hrest]
      exact receivers_moveTo h.receivers _
    · have hall : c.items = pending.reverse.take c.items.length := by
        rw [← h.kept, List.take_of_length_le (Nat.le_of_lt hlt)]
      have hreverse : (pending.drop lost).reverse = c.items := by
        rw [List.reverse_drop, show pending.length - lost = c.items.length by omega]
        exact hall.symm
      rw [hrest, hreverse]
      rfl

end Channel

end FilteredFeed.Feed
