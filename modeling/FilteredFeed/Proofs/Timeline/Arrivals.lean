import FilteredFeed.Proofs.Timeline.Log
import FilteredFeed.Proofs.Timeline.Offers

namespace FilteredFeed

open FilteredFeed.Feed FilteredFeed.Timeline

-- Live items that arrive one after the other.

namespace Timeline

variable {id : ItemId} {d : Delta} {known now : Finset ItemId}

-- An id is new to a buffer if it was not there before and is there after.
theorem Delta.Tracks.mem_inserted (h : d.Tracks known now) :
    id ∈ d.inserted ↔ id ∉ known ∧ id ∈ now := by
  rw [h.now]
  constructor
  · intro hin
    have hnew := h.inserted id hin
    exact ⟨hnew, .inr hin, mt (h.evicted id) hnew⟩
  · rintro ⟨hnew, hsource, -⟩
    exact hsource.resolve_left hnew

variable [Patterns] {T : Timeline} {bound : Nat} {offers : List Item}

-- How many of the items that arrive are new, to one who holds what was offered before.
def entered (bound : Nat) (offers : List Item) : List Item → Nat
  | [] => 0
  | item :: arriving =>
      let isNew := item.id ∉ (held bound offers).map Item.id ∧
        item.id ∈ (held bound (offers ++ [item])).map Item.id
      (if isNew then 1 else 0) + entered bound (offers ++ [item]) arriving

theorem unread_receive (hcount : T.config.countUnread = true) (item : Item) :
    (T.receive item).unread = T.unread +
      if item.id ∉ T.buffer.ids ∧ item.id ∈ (T.buffer.merge [item]).1.ids then 1 else 0 := by
  have hinserted : item.id ∈ (T.buffer.merge [item]).2.inserted ↔ _ :=
    (T.buffer.tracks_merge [item]).mem_inserted
  have hunread : (T.receive item).unread =
      if item.id ∈ (T.buffer.merge [item]).2.inserted then T.unread + 1 else T.unread := by
    obtain ⟨events, habsorb⟩ := absorb_eq T [item]
    have hdelta : (T.absorb [item]).2 = (T.buffer.merge [item]).2 := rfl
    unfold receive
    simp only [hdelta, habsorb, hcount, if_true, List.contains_iff_mem]
    split <;> rfl
  rw [hunread]
  simp only [← hinserted]
  split <;> rfl

-- A timeline that has received items one after the other, and held the newest of what was offered
-- before.
theorem foldl_receive (arriving : List Item)
    (h : IsNewest bound (· ∈ latest offers) T.buffer.items) (hbound : T.buffer.maxItems = bound) :
    (arriving.foldl receive T).buffer.items = held bound (offers ++ arriving) ∧
    (T.config.countUnread = true →
      (arriving.foldl receive T).unread = T.unread + entered bound offers arriving) := by
  induction arriving generalizing T offers with
  | nil =>
      rw [List.append_nil]
      exact ⟨h.eq_held, fun _ => rfl⟩
  | cons item arriving ih =>
      obtain ⟨events, unread, notified, hreceive⟩ := receive_eq T item
      have hbuffer : (T.receive item).buffer = (T.buffer.merge [item]).1 := by rw [hreceive]
      have hconfig : (T.receive item).config = T.config := by rw [hreceive]
      have hmerged := Buffer.isNewest_merge h.gathers hbound [item]
      obtain ⟨hitems, hunread⟩ := ih (hbuffer ▸ hmerged)
        (by rw [hbuffer, Buffer.maxItems_merge, hbound])
      rw [List.append_assoc] at hitems
      refine ⟨hitems, fun hcount => ?_⟩
      rw [List.foldl_cons, hunread (hconfig ▸ hcount), unread_receive hcount item]
      simp only [entered, Buffer.ids, List.mem_toFinset, h.eq_held, hmerged.eq_held, Nat.add_assoc]

end Timeline

end FilteredFeed
