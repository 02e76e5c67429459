import FilteredFeed.Proofs.Feed.Storage
import Mathlib.Data.List.Pairwise

namespace FilteredFeed.Timeline

open FilteredFeed.Feed

variable {bound : Nat} {item x : Item} {items offers more batch : List Item}

-- The last offer of each id.
def latest (offers : List Item) : List Item := offers.pwFilter fun a b => a.id ≠ b.id

theorem distinct_latest (offers : List Item) : Distinct (latest offers) :=
  List.pairwise_pwFilter offers

theorem mem_latest_cons :
    x ∈ latest (item :: offers) ↔ (x = item ∧ ∀ y ∈ offers, item.id ≠ y.id) ∨ x ∈ latest offers := by
  have hlast : (∀ y ∈ latest offers, item.id ≠ y.id) ↔ ∀ y ∈ offers, item.id ≠ y.id := by
    refine List.forall_mem_pwFilter (fun {a b c} hac => ?_) item offers
    by_cases hab : a.id = b.id
    · exact .inr (hab ▸ hac)
    · exact .inl hab
  by_cases h : ∀ y ∈ latest offers, item.id ≠ y.id
  · have hkept : latest (item :: offers) = item :: latest offers := List.pwFilter_cons_of_pos h
    rw [hkept, List.mem_cons, and_iff_left (hlast.mp h)]
  · have hgone : latest (item :: offers) = latest offers := List.pwFilter_cons_of_neg h
    rw [hgone]
    exact ⟨.inr, fun hmem => hmem.resolve_left fun hfirst => h (hlast.mpr hfirst.2)⟩

-- A later offer of an id takes the place of an earlier one.
theorem mem_latest_append :
    x ∈ latest (offers ++ more) ↔
      (x ∈ latest offers ∧ ∀ y ∈ more, x.id ≠ y.id) ∨ x ∈ latest more := by
  induction offers with
  | nil => simp [latest]
  | cons item offers ih =>
      rw [List.cons_append, mem_latest_cons, ih, mem_latest_cons]
      simp only [List.forall_mem_append]
      constructor
      · rintro (⟨rfl, hrest, hmore⟩ | ⟨hmem, hmore⟩ | hmem)
        · exact .inl ⟨.inl ⟨rfl, hrest⟩, hmore⟩
        · exact .inl ⟨.inr hmem, hmore⟩
        · exact .inr hmem
      · rintro (⟨⟨rfl, hrest⟩ | hmem, hmore⟩ | hmem)
        · exact .inl ⟨rfl, hrest, hmore⟩
        · exact .inr (.inl ⟨hmem, hmore⟩)
        · exact .inr (.inr hmem)

theorem mem_latest_concat :
    x ∈ latest (offers ++ [item]) ↔ (x ∈ latest offers ∧ x.id ≠ item.id) ∨ x = item := by
  rw [mem_latest_append, mem_latest_cons]
  simp [latest]

-- An offer counts if none of its id comes after it.
theorem mem_latest_iff :
    x ∈ latest offers ↔
      ∃ earlier later, offers = earlier ++ x :: later ∧ ∀ y ∈ later, x.id ≠ y.id := by
  constructor
  · intro h
    induction offers with
    | nil => simp [latest] at h
    | cons item offers ih =>
        rcases mem_latest_cons.mp h with ⟨rfl, hlater⟩ | h
        · exact ⟨[], offers, rfl, hlater⟩
        · obtain ⟨earlier, later, rfl, hlater⟩ := ih h
          exact ⟨item :: earlier, later, rfl, hlater⟩
  · rintro ⟨earlier, later, rfl, hlater⟩
    exact mem_latest_append.mpr (.inr (mem_latest_cons.mpr (.inl ⟨rfl, hlater⟩)))

theorem latest_of_distinct (h : Distinct items) : latest items = items :=
  List.pwFilter_eq_self.mpr h

-- Storage has each id once, with its last item.
theorem mem_store (h : Distinct items) :
    x ∈ Storage.store item items ↔ (x ∈ items ∧ x.id ≠ item.id) ∨ x = item := by
  induction items with
  | nil => simp [Storage.store]
  | cons a rest ih =>
      obtain ⟨ha, hrest⟩ := List.pairwise_cons.mp h
      unfold Storage.store
      split
      · rename_i hid
        simp only [List.mem_cons]
        constructor
        · rintro (rfl | hx)
          · exact .inr rfl
          · exact .inl ⟨.inr hx, fun heq => ha x hx (hid.trans heq.symm)⟩
        · rintro (⟨rfl | hx, hne⟩ | rfl)
          · exact absurd hid hne
          · exact .inr hx
          · exact .inl rfl
      · rename_i hid
        simp only [List.mem_cons, ih hrest]
        constructor
        · rintro (rfl | ⟨hx, hne⟩ | rfl)
          · exact .inl ⟨.inl rfl, hid⟩
          · exact .inl ⟨.inr hx, hne⟩
          · exact .inr rfl
        · rintro (⟨rfl | hx, hne⟩ | rfl)
          · exact .inl rfl
          · exact .inr (.inl ⟨hx, hne⟩)
          · exact .inr (.inr rfl)

theorem mem_ofList (stored : List Item) : x ∈ (Storage.ofList stored).items ↔ x ∈ latest stored := by
  induction stored using List.reverseRecOn generalizing x with
  | nil => rfl
  | append_singleton stored last ih =>
      have hstore : (Storage.ofList (stored ++ [last])).items =
          Storage.store last (Storage.ofList stored).items := by
        simp [Storage.ofList, Storage.insertAll, Storage.insert]
      rw [hstore, mem_store (Storage.distinct_ofList stored), mem_latest_concat, ih]

theorem Descending.distinct (h : Descending items) : Distinct items := by
  refine h.imp fun hlt heq => ?_
  rw [heq] at hlt
  exact UInt64.lt_irrefl _ hlt

-- What was there of the same id is gone.
theorem mem_put (hd : Descending items) (h : x ∈ put item items) :
    (x ∈ items ∧ x.id ≠ item.id) ∨ x = item := by
  by_cases hid : x.id = item.id
  · exact .inr ((descending_put item hd).distinct.eq_of_id h (mem_put_self item items) hid)
  · rcases id_mem_put h with rfl | hmem
    · exact .inr rfl
    · exact .inl ⟨hmem, hid⟩

-- What a buffer is to hold, under a bound, of what was offered. Before a batch is at its end there
-- may be more than the bound.
structure Gathers (bound : Nat) (offers items : List Item) : Prop where
  sound : ∀ x ∈ items, x ∈ latest offers
  covers : ∀ x ∈ latest offers, Covers bound items x

theorem gathers_nil (bound : Nat) : Gathers bound [] [] := ⟨nofun, nofun⟩

theorem gathers_self (h : Descending items) : Gathers bound items items := by
  have hall : ∀ x, x ∈ latest items ↔ x ∈ items := fun x => by rw [latest_of_distinct h.distinct]
  exact ⟨fun x hx => (hall x).mpr hx, fun x hx => .inl ((hall x).mp hx)⟩

theorem Gathers.put (h : Gathers bound offers items) (hd : Descending items) (item : Item) :
    Gathers bound (offers ++ [item]) (put item items) := by
  refine ⟨fun x hx => ?_, fun x hx => ?_⟩
  · exact mem_latest_concat.mpr ((mem_put hd hx).imp_left fun hold => ⟨h.sound x hold.1, hold.2⟩)
  · rcases mem_latest_concat.mp hx with ⟨hold, hid⟩ | rfl
    · exact (h.covers x hold).put fun heq => absurd heq hid
    · exact .inl (mem_put_self x items)

theorem Gathers.take (h : Gathers bound offers items) (hd : Descending items) :
    IsNewest bound (· ∈ latest offers) (items.take bound) := by
  refine ⟨hd.sublist (List.take_sublist ..), ?_, fun x hx => ?_, fun x hx => ?_⟩
  · rw [List.length_take]
    exact Nat.min_le_left ..
  · exact h.sound x (List.mem_of_mem_take hx)
  · exact (h.covers x hx).take hd

theorem isNewest_nil (bound : Nat) : IsNewest bound (· ∈ latest []) [] :=
  ⟨.nil, Nat.zero_le _, nofun, nofun⟩

theorem IsNewest.gathers (h : IsNewest bound (· ∈ latest offers) items) :
    Gathers bound offers items :=
  ⟨h.sound, h.covers⟩

-- The newest of what was offered, each id once, as many as a bound leaves room for.
def held (bound : Nat) (offers : List Item) : List Item :=
  (Storage.newestFirst (latest offers)).take bound

theorem isNewest_held (bound : Nat) (offers : List Item) :
    IsNewest bound (· ∈ latest offers) (held bound offers) :=
  Storage.isNewest_take (distinct_latest offers) bound

theorem IsNewest.eq_held (h : IsNewest bound (· ∈ latest offers) items) : items = held bound offers :=
  h.unique (isNewest_held bound offers)

namespace Buffer

variable {b : Buffer} {d : Delta}

theorem gathers_addAll (h : Gathers bound offers b.items) :
    Gathers bound (offers ++ batch) (b.addAll d batch).1.items := by
  induction batch generalizing b d offers with
  | nil => simpa [addAll] using h
  | cons item batch ih =>
      have hadded : Gathers bound (offers ++ [item]) (b.add item).items := h.put b.descending item
      have hall := ih (d := d.offer item.id (b.contains item.id)) hadded
      rw [List.append_assoc] at hall
      exact hall

-- What was evicted is not missed, whatever is offered after it.
theorem isNewest_merge (h : Gathers bound offers b.items) (hbound : b.maxItems = bound)
    (batch : List Item) :
    IsNewest bound (· ∈ latest (offers ++ batch)) (b.merge batch).1.items := by
  rw [items_merge, hbound]
  exact (gathers_addAll h).take (b.addAll {} batch).1.descending

-- One call that changes a buffer.
inductive Change where
  | insert (item : Item)
  | merge (batch : List Item)
  | clear
deriving DecidableEq, Repr

def change (b : Buffer) : Change → Buffer
  | .insert item => (b.insert item).1
  | .merge batch => (b.merge batch).1
  | .clear => b.clear.1

-- A new buffer after some calls.
def changed (maxItems : Nat) (changes : List Change) : Buffer :=
  changes.foldl change (empty maxItems)

-- The items that were offered since the last time the buffer was cleared.
def offered (changes : List Change) : List Item :=
  changes.foldl (fun offers change =>
    match change with
    | .insert item => offers ++ [item]
    | .merge batch => offers ++ batch
    | .clear => []) []

theorem changed_concat (maxItems : Nat) (changes : List Change) (last : Change) :
    changed maxItems (changes ++ [last]) = (changed maxItems changes).change last := by
  simp [changed]

theorem offered_concat (changes : List Change) (last : Change) :
    offered (changes ++ [last]) =
      match last with
      | .insert item => offered changes ++ [item]
      | .merge batch => offered changes ++ batch
      | .clear => [] := by
  simp [offered]

theorem maxItems_change (b : Buffer) (call : Change) : (b.change call).maxItems = b.maxItems := by
  cases call with
  | insert item => exact maxItems_merge b [item]
  | merge batch => exact maxItems_merge b batch
  | clear => exact maxItems_clear b

theorem maxItems_changed (maxItems : Nat) (changes : List Change) :
    (changed maxItems changes).maxItems = maxItems := by
  induction changes using List.reverseRecOn with
  | nil => rfl
  | append_singleton changes last ih =>
      rw [changed_concat, maxItems_change, ih]

theorem isNewest_changed (maxItems : Nat) (changes : List Change) :
    IsNewest maxItems (· ∈ latest (offered changes)) (changed maxItems changes).items := by
  induction changes using List.reverseRecOn with
  | nil => exact isNewest_nil maxItems
  | append_singleton changes last ih =>
      have hbound := maxItems_changed maxItems changes
      have hmerged (batch : List Item) : IsNewest maxItems (· ∈ latest (offered changes ++ batch))
          ((changed maxItems changes).merge batch).1.items :=
        isNewest_merge ih.gathers hbound batch
      rw [changed_concat, offered_concat]
      cases last with
      | insert item => exact hmerged [item]
      | merge batch => exact hmerged batch
      | clear =>
          change IsNewest _ _ (changed maxItems changes).clear.1.items
          rw [items_clear]
          exact isNewest_nil maxItems

-- A buffer is its bound and its items.
theorem eq_of_items {b b' : Buffer} (hbound : b.maxItems = b'.maxItems) (hitems : b.items = b'.items) :
    b = b' := by
  obtain ⟨maxItems, items, _⟩ := b
  obtain ⟨_, _, _⟩ := b'
  cases hbound
  cases hitems
  rfl

theorem changed_eq_of_latest {changes other : List Change} (maxItems : Nat)
    (h : ∀ x, x ∈ latest (offered changes) ↔ x ∈ latest (offered other)) :
    changed maxItems changes = changed maxItems other := by
  have hother := isNewest_changed maxItems other
  simp only [← h] at hother
  refine eq_of_items ?_ ((isNewest_changed maxItems changes).unique hother)
  rw [maxItems_changed, maxItems_changed]

theorem mem_latest_again {x : Item} :
    x ∈ latest (offers ++ batch ++ batch) ↔ x ∈ latest (offers ++ batch) := by
  simp only [mem_latest_append]
  tauto

-- Whatever calls a buffer has seen, it holds the newest of what was offered since the last time it
-- was cleared, each id with its last offer. In which batches that came, in which order, and how
-- often one batch came, makes no difference.
theorem changed_holds_newest (maxItems : Nat) (changes : List Change) :
    Descending (changed maxItems changes).items ∧
    (changed maxItems changes).items = held maxItems (offered changes) ∧
    (∀ other, (∀ x, x ∈ latest (offered changes) ↔ x ∈ latest (offered other)) →
      changed maxItems changes = changed maxItems other) ∧
    ∀ batch, changed maxItems (changes ++ [.merge batch, .merge batch]) =
      changed maxItems (changes ++ [.merge batch]) := by
  refine ⟨(changed maxItems changes).descending, (isNewest_changed maxItems changes).eq_held,
    fun other h => changed_eq_of_latest maxItems h,
    fun batch => changed_eq_of_latest maxItems fun x => ?_⟩
  have htwice : changes ++ [.merge batch, .merge batch] =
      (changes ++ [.merge batch]) ++ [.merge batch] := by simp
  rw [htwice, offered_concat, offered_concat]
  exact mem_latest_again

-- Four offers in three calls, and the three of them that count in one batch.
theorem changed_holds_newest_split :
    changed 2 [.merge [{ id := 3, author := "a" }, { id := 1, author := "a" }],
        .insert { id := 3, author := "b" }, .insert { id := 2, author := "a" }] =
      changed 2 [.merge [{ id := 2, author := "a" }, { id := 1, author := "a" },
        { id := 3, author := "b" }]] := by
  have hlatest : (latest [{ id := 3, author := "a" }, { id := 1, author := "a" },
      { id := 3, author := "b" }, { id := 2, author := "a" }]).Perm
      (latest [{ id := 2, author := "a" }, { id := 1, author := "a" }, { id := 3, author := "b" }]) := by
    decide
  exact (changed_holds_newest 2 _).2.2.1 _ fun x => hlatest.mem_iff

end Buffer

end FilteredFeed.Timeline
