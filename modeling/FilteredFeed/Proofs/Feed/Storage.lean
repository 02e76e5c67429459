import FilteredFeed.Feed.Storage
import FilteredFeed.Proofs.Filter.Translation
import FilteredFeed.Proofs.Timeline.Newest

namespace FilteredFeed.Feed

open FilteredFeed.Clause FilteredFeed.Filter FilteredFeed.Timeline

variable {item x y : Item} {items more : List Item} {s : Storage} {limit : Nat}

-- Every id is there once.
def Distinct (items : List Item) : Prop := items.Pairwise fun a b => a.id ≠ b.id

theorem Distinct.eq_of_id (h : Distinct items) (hx : x ∈ items) (hy : y ∈ items)
    (hid : x.id = y.id) : x = y := by
  induction items with
  | nil => cases hx
  | cons a rest ih =>
      obtain ⟨ha, hrest⟩ := List.pairwise_cons.mp h
      rcases List.mem_cons.mp hx with rfl | hx'
      · rcases List.mem_cons.mp hy with rfl | hy'
        · rfl
        · exact absurd hid (ha y hy')
      · rcases List.mem_cons.mp hy with rfl | hy'
        · exact absurd hid.symm (ha x hx')
        · exact ih hrest hx' hy'

namespace Storage

theorem mem_store (h : x ∈ store item items) : x = item ∨ x ∈ items := by
  induction items with
  | nil => exact .inl (List.mem_singleton.mp h)
  | cons a rest ih =>
      unfold store at h
      split at h
      · exact (List.mem_cons.mp h).imp_right (List.mem_cons_of_mem _)
      · rcases List.mem_cons.mp h with rfl | hrest
        · exact .inr List.mem_cons_self
        · exact (ih hrest).imp_right (List.mem_cons_of_mem _)

theorem distinct_store (h : Distinct items) : Distinct (store item items) := by
  induction items with
  | nil => exact List.pairwise_singleton ..
  | cons a rest ih =>
      obtain ⟨ha, hrest⟩ := List.pairwise_cons.mp h
      unfold store
      split
      · rename_i hid
        exact List.pairwise_cons.mpr ⟨fun y hy => hid ▸ ha y hy, hrest⟩
      · rename_i hid
        refine List.pairwise_cons.mpr ⟨fun y hy => ?_, ih hrest⟩
        rcases mem_store hy with rfl | hy
        · exact hid
        · exact ha y hy

-- An item of a new id goes to the end.
theorem store_of_new (h : ∀ x ∈ items, x.id ≠ item.id) : store item items = items ++ [item] := by
  induction items with
  | nil => rfl
  | cons a rest ih =>
      rw [store, if_neg (h a List.mem_cons_self), ih fun x hx => h x (List.mem_cons_of_mem _ hx)]
      rfl

theorem distinct_insertAll (h : Distinct s.items) : Distinct (s.insertAll more).items := by
  unfold insertAll
  induction more generalizing s with
  | nil => exact h
  | cons item more ih => exact ih (distinct_store h)

theorem distinct_ofList (items : List Item) : Distinct (ofList items).items :=
  distinct_insertAll .nil

theorem mem_newestFirst : x ∈ newestFirst items ↔ x ∈ items := List.mem_mergeSort

theorem descending_newestFirst (h : Distinct items) : Descending (newestFirst items) := by
  have hsorted : (newestFirst items).Pairwise fun a b => decide (b.id ≤ a.id) = true := by
    refine List.pairwise_mergeSort (fun a b c hab hbc => ?_) (fun a b => ?_) items
    · rw [decide_eq_true_eq] at hab hbc ⊢
      exact UInt64.le_trans hbc hab
    · rw [Bool.or_eq_true, decide_eq_true_eq, decide_eq_true_eq]
      exact UInt64.le_total ..
  have honce : Distinct (newestFirst items) :=
    (List.mergeSort_perm items _).symm.pairwise h Ne.symm
  refine (hsorted.and honce).imp fun {a b} hboth => ?_
  exact UInt64.lt_of_le_of_ne (of_decide_eq_true hboth.1) (Ne.symm hboth.2)

-- Sorting and cutting gives the newest of what is there.
theorem isNewest_take (h : Distinct items) (bound : Nat) :
    IsNewest bound (· ∈ items) ((newestFirst items).take bound) := by
  have hd := descending_newestFirst h
  refine ⟨hd.sublist (List.take_sublist ..), ?_, fun x hx => ?_, fun x hx => ?_⟩
  · rw [List.length_take]
    exact Nat.min_le_left ..
  · exact mem_newestFirst.mp (List.mem_of_mem_take hx)
  · exact Covers.take (.inl (mem_newestFirst.mpr hx)) hd

variable [Patterns]

-- The newest items that a filter accepts, at most so many.
def newest (s : Storage) (expr : Expr) (limit : Nat) : List Item :=
  (newestFirst (s.items.filter expr.compile.accepts)).take limit

theorem isNewest_newest (h : Distinct s.items) (expr : Expr) (bound : Nat) :
    IsNewest bound (fun x => x ∈ s.items ∧ expr.compile.accepts x = true) (s.newest expr bound) := by
  have hnewest := isNewest_take (h.filter expr.compile.accepts) bound
  exact ⟨hnewest.descending, hnewest.length_le, fun x hx => List.mem_filter.mp (hnewest.sound x hx),
    fun x hx => hnewest.covers x (List.mem_filter.mpr hx)⟩

-- They are what the text of the filter gets.
theorem query_compile (s : Storage) (expr : Expr) (limit : Nat) :
    (s.query expr.compile.queryText none (some limit)).1 = .ok (s.newest expr limit) := by
  unfold query newest
  dsimp only
  rw [parse_compile]
  unfold select
  simp only [Option.all_none, Bool.true_and, holds_condition]

theorem items_query (s : Storage) (text : String) (before : Option ItemId) (limit : Option Nat) :
    (s.query text before limit).2.items = s.items := by
  unfold query
  dsimp only
  split <;> rfl

end Storage

end FilteredFeed.Feed
