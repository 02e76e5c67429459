import FilteredFeed.Proofs.Timeline.Log
import FilteredFeed.Proofs.Timeline.Offers

namespace FilteredFeed.Timeline

open FilteredFeed.Feed

variable {d : Delta} {id : ItemId} {batch gone : List Item} {b : Buffer} {x : Item}

-- The ids that come with a batch, in the order in which each comes first.
def firsts (batch : List Item) : List ItemId := (batch.map Item.id).eraseDups

theorem mem_firsts : id ∈ firsts batch ↔ ∃ x ∈ batch, x.id = id := by
  simp [firsts]

theorem firsts_concat (batch : List Item) (x : Item) :
    firsts (batch ++ [x]) =
      if x.id ∈ firsts batch then firsts batch else firsts batch ++ [x.id] := by
  have hlast : ([x.id].removeAll (batch.map Item.id)).eraseDups =
      if x.id ∈ batch.map Item.id then [] else [x.id] := by
    by_cases h : x.id ∈ batch.map Item.id
    · simp only [List.removeAll, List.elem_eq_mem, List.filter_cons, h]
      rfl
    · simp only [List.removeAll, List.elem_eq_mem, List.filter_cons, h]
      rfl
  unfold firsts
  rw [List.map_append, List.eraseDups_append, List.map_singleton, hlast]
  by_cases h : x.id ∈ batch.map Item.id
  · rw [if_pos h, if_pos (List.mem_eraseDups.mpr h), List.append_nil]
  · rw [if_neg h, if_neg (mt List.mem_eraseDups.mp h)]

theorem nodup_firsts (batch : List Item) : (firsts batch).Nodup := by
  induction batch using List.reverseRecOn with
  | nil => exact List.nodup_nil
  | append_singleton batch x ih =>
      rw [firsts_concat]
      by_cases h : x.id ∈ firsts batch
      · rwa [if_pos h]
      · rw [if_neg h]
        refine List.nodup_append'.mpr ⟨ih, List.nodup_singleton _, ?_⟩
        simpa using h

-- Two ascending lists of the same ids are the same.
theorem eq_of_ascending {ids ids' : List ItemId} (h : ids.Pairwise (· < ·))
    (h' : ids'.Pairwise (· < ·)) (hsame : ∀ id, id ∈ ids ↔ id ∈ ids') : ids = ids' := by
  have honce {l : List ItemId} (hl : l.Pairwise (· < ·)) : l.Nodup := by
    apply hl.imp
    rintro a _ hlt rfl
    exact UInt64.lt_irrefl a hlt
  have hperm : ids.Perm ids' := (List.perm_ext_iff_of_nodup (honce h) (honce h')).mpr hsame
  apply hperm.eq_of_pairwise _ h h'
  intro a b _ _ hab hba
  exact absurd (UInt64.lt_trans hab hba) (UInt64.lt_irrefl a)

namespace Delta

-- What a delta comes to when items had to go. Those that came with the batch were never seen, and
-- the others are said to be gone.
theorem evictAll_eq (hinserted : d.inserted.Nodup) (hapart : ∀ id ∈ d.inserted, id ∉ d.updated)
    (hgone : (gone.map Item.id).Nodup) :
    gone.foldl (fun d item => d.evict item.id) d =
      { d with
        inserted := d.inserted.filter (· ∉ gone.map Item.id)
        updated := d.updated.filter (· ∉ gone.map Item.id)
        evicted := d.evicted ++ (gone.map Item.id).filter (· ∉ d.inserted) } := by
  induction gone generalizing d with
  | nil => simp
  | cons x gone ih =>
      obtain ⟨hfirst, hgone⟩ := List.nodup_cons.mp hgone
      rw [List.foldl_cons, List.map_cons]
      by_cases hin : x.id ∈ d.inserted
      · have hevict : d.evict x.id = { d with inserted := d.inserted.erase x.id } := by
          simp [evict, hin]
        have hupdated : x.id ∉ d.updated := hapart x.id hin
        rw [hevict, ih (d := { d with inserted := d.inserted.erase x.id }) (hinserted.erase x.id)
          (fun id hid => hapart id (List.mem_of_mem_erase hid)) hgone]
        congr 1
        · rw [hinserted.erase_eq_filter, List.filter_filter]
          apply List.filter_congr
          intro id _
          by_cases hid : id = x.id <;> simp [hid]
        · apply List.filter_congr
          intro id hid
          have hne : id ≠ x.id := by
            rintro rfl
            exact hupdated hid
          simp [hne]
        · rw [List.filter_cons_of_neg (by simpa using hin)]
          congr 1
          apply List.filter_congr
          intro id hid
          have hne : id ≠ x.id := by
            rintro rfl
            exact hfirst hid
          simp [hinserted.mem_erase_iff, hne]
      · have hevict : d.evict x.id =
            { d with updated := d.updated.filter (· ≠ x.id), evicted := d.evicted ++ [x.id] } := by
          simp [evict, hin]
        have hapart' (id : ItemId) (hid : id ∈ d.inserted) :
            id ∉ d.updated.filter (· ≠ x.id) := fun hmem => hapart id hid (List.mem_filter.mp hmem).1
        rw [hevict, ih (d := { d with
          updated := d.updated.filter (· ≠ x.id)
          evicted := d.evicted ++ [x.id] }) hinserted hapart' hgone]
        congr 1
        · apply List.filter_congr
          intro id hid
          have hne : id ≠ x.id := by
            rintro rfl
            exact hin hid
          simp [hne]
        · rw [List.filter_filter]
          apply List.filter_congr
          intro id _
          simp [Bool.and_comm]
        · rw [List.filter_cons_of_pos (by simpa using hin)]
          simp

end Delta

namespace Buffer

theorem addAll_concat (b : Buffer) (d : Delta) (batch : List Item) (x : Item) :
    b.addAll d (batch ++ [x]) =
      ((b.addAll d batch).1.add x,
        (b.addAll d batch).2.offer x.id ((b.addAll d batch).1.contains x.id)) := by
  induction batch generalizing b d with
  | nil => rfl
  | cons y batch ih => exact ih ..

theorem mem_ids_addAll (b : Buffer) (d : Delta) (batch : List Item) :
    id ∈ (b.addAll d batch).1.ids ↔ id ∈ b.ids ∨ id ∈ firsts batch := by
  induction batch using List.reverseRecOn with
  | nil => simp [addAll, firsts]
  | append_singleton batch x ih =>
      rw [addAll_concat, ids_add, Finset.mem_insert, ih, firsts_concat]
      by_cases h : x.id ∈ firsts batch
      · rw [if_pos h]
        constructor
        · rintro (rfl | hold)
          · exact .inr h
          · exact hold
        · exact .inr
      · simp only [if_neg h, List.mem_append, List.mem_singleton]
        tauto

-- Before anything has to go, a delta tells the ids that are new from those that were there.
theorem delta_addAll (b : Buffer) (batch : List Item) :
    (b.addAll {} batch).2 =
      { inserted := (firsts batch).filter (· ∉ b.ids)
        updated := (firsts batch).filter (· ∈ b.ids) } := by
  induction batch using List.reverseRecOn with
  | nil => rfl
  | append_singleton batch x ih =>
      have hpresent : (b.addAll {} batch).1.contains x.id = true ↔
          x.id ∈ b.ids ∨ x.id ∈ firsts batch := by
        rw [contains_iff, mem_ids_addAll]
      rw [addAll_concat, ih, firsts_concat]
      generalize (b.addAll {} batch).1.contains x.id = present at hpresent
      by_cases hbatch : x.id ∈ firsts batch
      · obtain rfl : present = true := hpresent.mpr (.inr hbatch)
        by_cases hold : x.id ∈ b.ids <;> simp [Delta.offer, hbatch, hold]
      · by_cases hold : x.id ∈ b.ids
        · obtain rfl : present = true := hpresent.mpr (.inl hold)
          simp [Delta.offer, hbatch, hold]
        · obtain rfl : present = false := by simpa [hold, hbatch] using hpresent
          simp [Delta.offer, hbatch, hold]

-- From the oldest to the newest, ids ascend.
theorem ascending_ids (b : Buffer) : (b.items.map Item.id).reverse.Pairwise (· < ·) := by
  rw [List.pairwise_reverse, List.pairwise_map]
  exact b.descending

theorem ascending_overflow (b : Buffer) : (b.overflow.map Item.id).Pairwise (· < ·) := by
  rw [overflow, List.map_reverse, List.pairwise_reverse, List.pairwise_map]
  exact b.descending.sublist (List.drop_sublist ..)

theorem nodup_overflow (b : Buffer) : (b.overflow.map Item.id).Nodup := by
  apply b.ascending_overflow.imp
  rintro x _ hlt rfl
  exact UInt64.lt_irrefl x hlt

-- The delta of a batch, all at once.
theorem delta_merge (b : Buffer) (batch : List Item) :
    (b.merge batch).2 =
      { inserted := (firsts batch).filter fun id => id ∉ b.ids ∧ id ∈ (b.merge batch).1.ids
        updated := (firsts batch).filter fun id => id ∈ b.ids ∧ id ∈ (b.merge batch).1.ids
        evicted := (b.items.map Item.id).reverse.filter (· ∉ (b.merge batch).1.ids) } := by
  have htrim : (b.merge batch).1 = (b.addAll {} batch).1.trim := rfl
  have hmerge : (b.merge batch).2 =
      (b.addAll {} batch).1.overflow.foldl (fun d item => d.evict item.id)
        (b.addAll {} batch).2 := rfl
  have hgrown (id : ItemId) : id ∈ (b.addAll {} batch).1.ids ↔ id ∈ b.ids ∨ id ∈ firsts batch :=
    mem_ids_addAll b {} batch
  rw [hmerge, htrim, delta_addAll]
  generalize (b.addAll {} batch).1 = grown at hgrown
  have hkept (id : ItemId) :
      id ∈ grown.trim.ids ↔ id ∈ grown.ids ∧ id ∉ grown.overflow.map Item.id := by
    rw [ids_trim, Finset.mem_sdiff, List.mem_toFinset]
  have hoverflow (id : ItemId) (hid : id ∈ grown.overflow.map Item.id) : id ∈ grown.ids := by
    obtain ⟨x, hx, rfl⟩ := List.mem_map.mp hid
    exact List.mem_toFinset.mpr
      (List.mem_map_of_mem (List.mem_of_mem_drop (List.mem_reverse.mp hx)))
  have hcame (id : ItemId) (hid : id ∈ firsts batch) :
      id ∈ grown.trim.ids ↔ id ∉ grown.overflow.map Item.id := by
    rw [hkept, hgrown]
    exact and_iff_right (.inr hid)
  rw [Delta.evictAll_eq]
  · congr 1
    · rw [List.filter_filter]
      apply List.filter_congr
      intro id hid
      simp only [hcame id hid, Bool.decide_and, Bool.and_comm]
    · rw [List.filter_filter]
      apply List.filter_congr
      intro id hid
      simp only [hcame id hid, Bool.decide_and, Bool.and_comm]
    · apply eq_of_ascending
      · exact grown.ascending_overflow.filter _
      · exact b.ascending_ids.filter _
      · intro id
        have hb : id ∈ b.items.map Item.id ↔ id ∈ b.ids := List.mem_toFinset.symm
        have hsource := hgrown id
        have hwas := hoverflow id
        simp only [List.nil_append, List.mem_filter, List.mem_reverse, hb, hkept, decide_eq_true_eq]
        tauto
  · exact (nodup_firsts batch).filter _
  · intro id hin hupdated
    have hnew := of_decide_eq_true (List.mem_filter.mp hin).2
    exact hnew (of_decide_eq_true (List.mem_filter.mp hupdated).2)
  · exact grown.nodup_overflow

-- A batch of which nothing is kept changes nothing. What is held was there before, and the bound
-- leaves room for as much as there was.
theorem merge_of_unheld (hbound : b.items.length ≤ b.maxItems)
    (hnone : ∀ x ∈ batch, x.id ∉ (b.merge batch).1.ids) : (b.merge batch).1 = b := by
  have hsubset : (b.merge batch).1.items ⊆ b.items := by
    intro x hx
    refine (mem_merge hx).resolve_right fun hcame => hnone x hcame ?_
    exact List.mem_toFinset.mpr (List.mem_map_of_mem hx)
  have hgrown : b.items.length ≤ (b.addAll {} batch).1.items.length := by
    have hids : b.items.map Item.id ⊆ (b.addAll {} batch).1.items.map Item.id := by
      intro id hid
      have hmem := (mem_ids_addAll b {} batch).mpr (.inl (List.mem_toFinset.mpr hid))
      exact List.mem_toFinset.mp hmem
    simpa using b.nodup_ids.length_le_of_subset hids
  have hlength : b.items.length ≤ (b.merge batch).1.items.length := by
    rw [items_merge, List.length_take]
    omega
  have hperm : (b.merge batch).1.items.Perm b.items :=
    ((b.merge batch).1.descending.nodup.subperm hsubset).perm_of_length_le hlength
  apply eq_of_items
  · exact maxItems_merge b batch
  · exact (b.merge batch).1.descending.eq_of_perm b.descending hperm

-- A delta is empty if nothing of the batch was kept.
theorem isEmpty_merge (hbound : b.items.length ≤ b.maxItems) (batch : List Item) :
    (b.merge batch).2.isEmpty = true ↔ ∀ x ∈ batch, x.id ∉ (b.merge batch).1.ids := by
  have hparts : (b.merge batch).2.isEmpty = true ↔ (b.merge batch).2.inserted = [] ∧
      (b.merge batch).2.updated = [] ∧ (b.merge batch).2.evicted = [] := by
    have hcleared : (b.merge batch).2.cleared = false := congrArg Delta.cleared (delta_merge b batch)
    simp [Delta.isEmpty, hcleared, and_assoc]
  rw [hparts, delta_merge]
  simp only [List.filter_eq_nil_iff, decide_eq_true_eq]
  constructor
  · rintro ⟨hnew, hold, -⟩ x hx hheld
    have hcame : x.id ∈ firsts batch := mem_firsts.mpr ⟨x, hx, rfl⟩
    by_cases hbefore : x.id ∈ b.ids
    · exact hold x.id hcame ⟨hbefore, hheld⟩
    · exact hnew x.id hcame ⟨hbefore, hheld⟩
  · intro hnone
    have hgone (id : ItemId) (hid : id ∈ firsts batch) : id ∉ (b.merge batch).1.ids := by
      obtain ⟨x, hx, rfl⟩ := mem_firsts.mp hid
      exact hnone x hx
    refine ⟨fun id hid hboth => hgone id hid hboth.2, fun id hid hboth => hgone id hid hboth.2, ?_⟩
    intro id hid hout
    rw [merge_of_unheld hbound hnone] at hout
    exact hout (List.mem_toFinset.mpr (List.mem_reverse.mp hid))

-- The ids that have to go are told in their order.
theorem ascending_evicted (b : Buffer) (batch : List Item) :
    (b.merge batch).2.evicted.Pairwise (· < ·) := by
  rw [delta_merge]
  exact b.ascending_ids.filter _

-- A delta says one thing of an id.
theorem nodup_delta (b : Buffer) (batch : List Item) :
    ((b.merge batch).2.inserted ++ (b.merge batch).2.updated ++ (b.merge batch).2.evicted).Nodup := by
  have honce : (b.merge batch).2.evicted.Nodup := by
    apply (b.ascending_evicted batch).imp
    rintro id _ hlt rfl
    exact UInt64.lt_irrefl id hlt
  rw [delta_merge] at honce ⊢
  rw [List.nodup_append', List.nodup_append']
  refine ⟨⟨(nodup_firsts batch).filter _, (nodup_firsts batch).filter _, ?_⟩, honce, ?_⟩
  · intro id hnew hold
    simp only [List.mem_filter, decide_eq_true_eq] at hnew hold
    exact hnew.2.1 hold.2.1
  · intro id hkept hgone
    simp only [List.mem_append, List.mem_filter, decide_eq_true_eq] at hkept hgone
    exact hgone.2 (hkept.elim (fun hnew => hnew.2.2) fun hold => hold.2.2)

-- A delta says exactly what a batch has made of the ids in a buffer. It is empty if nothing of the
-- batch was kept, and then nothing was changed.
theorem merge_says_exactly (h : b.items.length ≤ b.maxItems) (batch : List Item) :
    let b' := (b.merge batch).1
    let d := (b.merge batch).2
    d.cleared = false ∧
    d.inserted = (firsts batch).filter (fun id => id ∉ b.ids ∧ id ∈ b'.ids) ∧
    d.updated = (firsts batch).filter (fun id => id ∈ b.ids ∧ id ∈ b'.ids) ∧
    d.evicted = (b.items.map Item.id).reverse.filter (· ∉ b'.ids) ∧
    d.evicted.Pairwise (· < ·) ∧
    (d.inserted ++ d.updated ++ d.evicted).Nodup ∧
    (d.isEmpty = true ↔ ∀ x ∈ batch, x.id ∉ b'.ids) ∧
    (d.isEmpty = true → b' = b) := by
  intro b' d
  have hd : d = _ := delta_merge b batch
  refine ⟨congrArg Delta.cleared hd, congrArg Delta.inserted hd, congrArg Delta.updated hd,
    congrArg Delta.evicted hd, b.ascending_evicted batch, b.nodup_delta batch,
    isEmpty_merge h batch, ?_⟩
  intro hnothing
  exact merge_of_unheld h ((isEmpty_merge h batch).mp hnothing)

-- One batch puts in an item, writes over it, and writes over another one that has to go in the end.
theorem merge_says_exactly_replaced :
    let b := (Buffer.empty 2).merge [{ id := 1, author := "a" }, { id := 2, author := "a" }] |>.1
    let batch := [{ id := 4, author := "a" }, { id := 1, author := "b" }, { id := 4, author := "b" },
      { id := 3, author := "a" }, { id := 0, author := "a" }]
    b.items.length ≤ b.maxItems ∧
    (b.merge batch).2 = { inserted := [4, 3], evicted := [1, 2] } ∧
    (b.merge batch).2.evicted = (b.items.map Item.id).reverse.filter (· ∉ (b.merge batch).1.ids) := by
  intro b batch
  have hbound : b.items.length ≤ b.maxItems := by decide
  exact ⟨hbound, by decide, (merge_says_exactly hbound batch).2.2.2.1⟩

end Buffer

end FilteredFeed.Timeline
