import FilteredFeed.Timeline.Basic

namespace FilteredFeed

open FilteredFeed.Feed FilteredFeed.Timeline

namespace Timeline

namespace Buffer

variable {b : Buffer} {d : Delta} {batch : List Item} {x : Item}

theorem mem_addAll (h : x ∈ (b.addAll d batch).1.items) : x ∈ b.items ∨ x ∈ batch := by
  induction batch generalizing b d with
  | nil => exact .inl h
  | cons item batch ih =>
      rcases ih h with h | h
      · rcases id_mem_put h with rfl | h
        · exact .inr List.mem_cons_self
        · exact .inl h
      · exact .inr (List.mem_cons_of_mem _ h)

-- What a buffer holds after a batch was there before or came with the batch.
theorem mem_merge (h : x ∈ (b.merge batch).1.items) : x ∈ b.items ∨ x ∈ batch :=
  mem_addAll (List.mem_of_mem_take h)

@[simp] theorem items_clear (b : Buffer) : b.clear.1.items = [] := by
  unfold clear
  split
  · rename_i h
    simpa using h
  · rfl

@[simp] theorem maxItems_clear (b : Buffer) : b.clear.1.maxItems = b.maxItems := by
  unfold clear
  split <;> rfl

theorem eq_empty (h : b.items = []) : b = .empty b.maxItems := by
  obtain ⟨maxItems, items, hd⟩ := b
  obtain rfl : items = [] := h
  rfl

end Buffer

variable [Patterns] {timeline : Timeline}

theorem emit_eq (timeline : Timeline) (delta : Delta) :
    ∃ events, timeline.emit delta = { timeline with events } := by
  unfold emit
  split
  · exact ⟨timeline.events, rfl⟩
  · exact ⟨_, rfl⟩

-- Storage results change the buffer and are announced, and that is all they do.
theorem absorb_eq (timeline : Timeline) (items : List Item) :
    ∃ events, (timeline.absorb items).1 =
      { timeline with buffer := (timeline.buffer.merge items).1, events } := by
  obtain ⟨events, h⟩ := emit_eq
    { timeline with buffer := (timeline.buffer.merge items).1 } (timeline.buffer.merge items).2
  exact ⟨events, h⟩

theorem receive_eq (timeline : Timeline) (item : Item) :
    ∃ events unread notified, timeline.receive item =
      { timeline with buffer := (timeline.buffer.merge [item]).1, events, unread, notified } := by
  obtain ⟨events, h⟩ := absorb_eq timeline [item]
  unfold receive
  dsimp only
  split
  · rw [h]
    exact ⟨_, _, _, rfl⟩
  · rw [h]
    exact ⟨_, _, _, rfl⟩

end Timeline

end FilteredFeed
