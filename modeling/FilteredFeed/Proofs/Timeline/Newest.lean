import FilteredFeed.Proofs.Timeline.Buffer
import Mathlib.Data.List.Nodup

namespace FilteredFeed.Timeline

open FilteredFeed.Feed

variable {bound least : Nat} {x y : Item} {items found batch : List Item}
variable {offered : Item → Prop}

-- How many items are newer than another one.
def newer (x : Item) (items : List Item) : Nat := items.countP (x.id < ·.id)

-- An item is there, or so many are newer that it has no place under a bound.
def Covers (bound : Nat) (items : List Item) (x : Item) : Prop :=
  x ∈ items ∨ bound ≤ newer x items

-- The newest of the items that were offered, as many as a bound leaves room for.
structure IsNewest (bound : Nat) (offered : Item → Prop) (items : List Item) : Prop where
  descending : Descending items
  length_le : items.length ≤ bound
  sound : ∀ x ∈ items, offered x
  covers : ∀ x, offered x → Covers bound items x

theorem Descending.nodup (h : Descending items) : items.Nodup := by
  refine h.imp fun hlt heq => ?_
  rw [heq] at hlt
  exact UInt64.lt_irrefl _ hlt

theorem newer_lt_of_mem (h : x ∈ items) : newer x items < items.length := by
  refine Nat.lt_of_le_of_ne List.countP_le_length fun heq => ?_
  have hself := List.countP_eq_length.mp heq x h
  simp at hself

theorem newer_of_older (h : x.id < y.id) (items : List Item) : newer y items ≤ newer x items := by
  refine List.countP_mono_left fun z _ hz => ?_
  simp only [decide_eq_true_eq] at hz ⊢
  exact UInt64.lt_trans h hz

-- The items that are newer than another one do not become fewer when they are covered in turn.
theorem newer_of_covers (hfound : Descending found) (hcovers : ∀ y ∈ found, Covers bound items y)
    (h : bound ≤ newer x found) : bound ≤ newer x items := by
  by_cases hall : ∀ y ∈ found, x.id < y.id → y ∈ items
  · have hsubset : found.filter (x.id < ·.id) ⊆ items.filter (x.id < ·.id) := by
      intro y hy
      obtain ⟨hmem, hlt⟩ := List.mem_filter.mp hy
      exact List.mem_filter.mpr ⟨hall y hmem (of_decide_eq_true hlt), hlt⟩
    have hlength := (hfound.nodup.filter _).length_le_of_subset hsubset
    rw [← List.countP_eq_length_filter, ← List.countP_eq_length_filter] at hlength
    exact Nat.le_trans h hlength
  · simp only [not_forall] at hall
    obtain ⟨y, hmem, hlt, hgone⟩ := hall
    exact Nat.le_trans ((hcovers y hmem).resolve_left hgone) (newer_of_older hlt items)

theorem Covers.trans (h : Covers least found x) (hle : bound ≤ least) (hfound : Descending found)
    (hcovers : ∀ y ∈ found, Covers bound items y) : Covers bound items x := by
  rcases h with hmem | hnewer
  · exact hcovers x hmem
  · exact .inr (newer_of_covers hfound hcovers (Nat.le_trans hle hnewer))

-- An order leaves no choice.
theorem Descending.eq_of_perm (h : Descending items) (h' : Descending found)
    (hperm : items.Perm found) : items = found := by
  refine hperm.eq_of_pairwise (fun a b _ _ hab hba => ?_) h h'
  exact absurd (UInt64.lt_trans hab hba) (UInt64.lt_irrefl _)

-- There is one list of the newest items.
theorem IsNewest.unique (h : IsNewest bound offered items) (h' : IsNewest bound offered found) :
    items = found := by
  have hsub {l m : List Item} (hl : IsNewest bound offered l) (hm : IsNewest bound offered m) :
      ∀ x ∈ l, x ∈ m := by
    intro x hx
    refine (hm.covers x (hl.sound x hx)).resolve_right fun hnewer => ?_
    have hfull : bound ≤ newer x l :=
      newer_of_covers hm.descending (fun y hy => hl.covers y (hm.sound y hy)) hnewer
    have hlt := newer_lt_of_mem hx
    have hle := hl.length_le
    omega
  have hperm : items.Perm found :=
    (List.perm_ext_iff_of_nodup h.descending.nodup h'.descending.nodup).mpr fun x =>
      ⟨hsub h h' x, hsub h' h x⟩
  exact h.descending.eq_of_perm h'.descending hperm

-- What goes beyond the bound has no place under it.
theorem Covers.take (h : Covers bound items x) (hd : Descending items) :
    Covers bound (items.take bound) x := by
  have hsplit : items.take bound ++ items.drop bound = items := List.take_append_drop ..
  have hapart : ∀ a ∈ items.take bound, ∀ b ∈ items.drop bound, b.id < a.id := by
    rw [← hsplit] at hd
    exact (List.pairwise_append.mp hd).2.2
  have hfull (hlength : bound ≤ items.length)
      (hall : ∀ y ∈ items.take bound, x.id < y.id) : bound ≤ newer x (items.take bound) := by
    have hcount := List.countP_eq_length.mpr fun y hy => decide_eq_true (hall y hy)
    rw [newer, hcount, List.length_take]
    omega
  rcases h with hmem | hnewer
  · rw [← hsplit] at hmem
    rcases List.mem_append.mp hmem with hkept | hgone
    · exact .inl hkept
    · refine .inr (hfull ?_ fun y hy => hapart y hy x hgone)
      have hlt := List.length_pos_of_mem hgone
      rw [List.length_drop] at hlt
      omega
  · refine .inr ?_
    by_cases hall : ∀ y ∈ items.take bound, x.id < y.id
    · exact hfull (Nat.le_trans hnewer List.countP_le_length) hall
    · simp only [not_forall] at hall
      obtain ⟨y, hy, hnlt⟩ := hall
      -- one that is kept is not newer, and what is not kept is older still
      have hnone : (items.drop bound).countP (x.id < ·.id) = 0 := by
        refine List.countP_eq_zero.mpr fun b hb hlt => hnlt ?_
        exact UInt64.lt_trans (of_decide_eq_true hlt) (hapart y hy b hb)
      rw [newer, ← hsplit, List.countP_append, hnone] at hnewer
      exact hnewer

theorem mem_put_self (item : Item) (items : List Item) : item ∈ put item items := by
  induction items with
  | nil => simp [put]
  | cons a rest ih =>
      unfold put
      split
      · simp
      · split
        · simp
        · exact List.mem_cons_of_mem _ ih

theorem mem_put_of_ne {item : Item} (h : x ∈ items) (hne : x.id ≠ item.id) :
    x ∈ put item items := by
  induction items with
  | nil => cases h
  | cons a rest ih =>
      unfold put
      split
      · exact List.mem_cons_of_mem _ h
      · split
        · rename_i heq
          rcases List.mem_cons.mp h with rfl | hrest
          · exact absurd heq hne
          · exact List.mem_cons_of_mem _ hrest
        · rcases List.mem_cons.mp h with rfl | hrest
          · exact List.mem_cons_self
          · exact List.mem_cons_of_mem _ (ih hrest)

theorem newer_put (x item : Item) (items : List Item) :
    newer x items ≤ newer x (put item items) := by
  unfold newer
  induction items with
  | nil => simp
  | cons a rest ih =>
      unfold put
      split
      · exact (List.sublist_cons_self ..).countP_le
      · split
        · rename_i heq
          simp only [List.countP_cons, heq, Nat.le_refl]
        · rw [List.countP_cons, List.countP_cons]
          exact Nat.add_le_add_right ih _

-- An item that is put over one of its id is the same.
theorem Covers.put {item : Item} (h : Covers bound items x) (hsame : x.id = item.id → x = item) :
    Covers bound (put item items) x := by
  by_cases hid : x.id = item.id
  · rw [hsame hid]
    exact .inl (mem_put_self item items)
  · rcases h with hmem | hnewer
    · exact .inl (mem_put_of_ne hmem hid)
    · exact .inr (Nat.le_trans hnewer (newer_put x item items))

namespace Buffer

variable {b : Buffer} {d : Delta}

theorem maxItems_addAll (b : Buffer) (d : Delta) (batch : List Item) :
    (b.addAll d batch).1.maxItems = b.maxItems := by
  induction batch generalizing b d with
  | nil => rfl
  | cons item batch ih => exact ih ..

theorem maxItems_merge (b : Buffer) (batch : List Item) :
    (b.merge batch).1.maxItems = b.maxItems :=
  maxItems_addAll ..

theorem items_merge (b : Buffer) (batch : List Item) :
    (b.merge batch).1.items = (b.addAll {} batch).1.items.take b.maxItems := by
  rw [← maxItems_addAll b {} batch]
  rfl

theorem length_merge (b : Buffer) (batch : List Item) :
    (b.merge batch).1.items.length ≤ b.maxItems := by
  rw [items_merge, List.length_take]
  exact Nat.min_le_left ..

theorem covers_addAll (h : x ∈ batch ∨ Covers bound b.items x)
    (hsame : ∀ y ∈ batch, x.id = y.id → x = y) :
    Covers bound (b.addAll d batch).1.items x := by
  induction batch generalizing b d with
  | nil => exact h.resolve_left (by simp)
  | cons item batch ih =>
      have hrest := fun y hy => hsame y (List.mem_cons_of_mem _ hy)
      refine ih (b := b.add item) ?_ hrest
      rcases h with hmem | hcovers
      · rcases List.mem_cons.mp hmem with rfl | hmem
        · exact .inr (.inl (mem_put_self x b.items))
        · exact .inl hmem
      · exact .inr (hcovers.put (hsame item List.mem_cons_self))

-- A batch covers what it brings, and what was covered before.
theorem covers_merge (h : x ∈ batch ∨ Covers b.maxItems b.items x)
    (hsame : ∀ y ∈ batch, x.id = y.id → x = y) :
    Covers b.maxItems (b.merge batch).1.items x := by
  rw [items_merge]
  exact (covers_addAll h hsame).take (b.addAll {} batch).1.descending

end Buffer

end FilteredFeed.Timeline
