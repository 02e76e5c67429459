import FilteredFeed.Feed.Item

namespace FilteredFeed.Timeline

open FilteredFeed.Feed

-- What one batch did to a buffer.
structure Delta where
  -- ids that were not there before and are now
  inserted : List ItemId := []
  -- ids whose item was replaced
  updated : List ItemId := []
  -- ids that had to go to keep the bound
  evicted : List ItemId := []
  cleared : Bool := false
deriving DecidableEq, Repr, Inhabited

namespace Delta

def isEmpty (d : Delta) : Bool :=
  !d.cleared && d.inserted.isEmpty && d.updated.isEmpty && d.evicted.isEmpty

-- Notes that an item was put in, where its id may have been there already.
def offer (d : Delta) (id : ItemId) (present : Bool) : Delta :=
  if present then
    if d.inserted.contains id || d.updated.contains id then d
    else { d with updated := d.updated ++ [id] }
  else { d with inserted := d.inserted ++ [id] }

-- Notes that an item had to go. One that came with the same batch was never seen.
def evict (d : Delta) (id : ItemId) : Delta :=
  if d.inserted.contains id then { d with inserted := d.inserted.erase id }
  else { d with updated := d.updated.filter (· ≠ id), evicted := d.evicted ++ [id] }

end Delta

-- Items with the newest first, each id once.
def Descending (items : List Item) : Prop := items.Pairwise fun a b => b.id < a.id

-- Puts an item in its place, over one of the same id.
def put (item : Item) : List Item → List Item
  | [] => [item]
  | x :: rest =>
      if x.id < item.id then item :: x :: rest
      else if x.id = item.id then item :: rest
      else x :: put item rest

theorem id_mem_put {item y : Item} {items : List Item} (h : y ∈ put item items) :
    y = item ∨ y ∈ items := by
  induction items with
  | nil => simpa [put] using h
  | cons x rest ih =>
      simp only [put] at h
      split at h
      · simpa using h
      · split at h
        · rcases List.mem_cons.mp h with h | h
          · exact .inl h
          · exact .inr (List.mem_cons_of_mem _ h)
        · rcases List.mem_cons.mp h with h | h
          · exact .inr (h ▸ List.mem_cons_self)
          · exact (ih h).imp_right (List.mem_cons_of_mem _)

theorem descending_put (item : Item) {items : List Item} (h : Descending items) :
    Descending (put item items) := by
  induction items with
  | nil => simp [put, Descending]
  | cons x rest ih =>
      obtain ⟨hx, hrest⟩ := List.pairwise_cons.mp h
      simp only [put]
      split
      · rename_i hlt
        refine List.pairwise_cons.mpr ⟨fun y hy => ?_, h⟩
        rcases List.mem_cons.mp hy with rfl | hy
        · exact hlt
        · exact UInt64.lt_trans (hx y hy) hlt
      · split
        · rename_i heq
          exact List.pairwise_cons.mpr ⟨fun y hy => heq ▸ hx y hy, hrest⟩
        · rename_i hnlt hne
          refine List.pairwise_cons.mpr ⟨fun y hy => ?_, ih hrest⟩
          rcases id_mem_put hy with rfl | hy
          · exact UInt64.lt_of_le_of_ne (UInt64.not_lt.mp hnlt) (Ne.symm hne)
          · exact hx y hy

-- The items of a timeline, at most `maxItems` of them after every batch.
structure Buffer where
  maxItems : Nat
  -- newest first
  items : List Item
  descending : Descending items

namespace Buffer

def empty (maxItems : Nat) : Buffer := ⟨maxItems, [], .nil⟩

instance : Inhabited Buffer := ⟨empty 0⟩

def get? (b : Buffer) (id : ItemId) : Option Item := b.items.find? (·.id == id)

def contains (b : Buffer) (id : ItemId) : Bool := b.items.any (·.id == id)

def size (b : Buffer) : Nat := b.items.length

def isEmpty (b : Buffer) : Bool := b.items.isEmpty

def newest? (b : Buffer) : Option ItemId := b.items.head?.map Item.id

def oldest? (b : Buffer) : Option ItemId := b.items.getLast?.map Item.id

-- Puts an item in, whatever the bound.
def add (b : Buffer) (item : Item) : Buffer :=
  { b with items := put item b.items, descending := descending_put item b.descending }

def addAll (b : Buffer) (d : Delta) : List Item → Buffer × Delta
  | [] => (b, d)
  | item :: batch => addAll (b.add item) (d.offer item.id (b.contains item.id)) batch

-- The items beyond the bound, oldest first.
def overflow (b : Buffer) : List Item := (b.items.drop b.maxItems).reverse

def trim (b : Buffer) : Buffer :=
  { b with
    items := b.items.take b.maxItems
    descending := b.descending.sublist (List.take_sublist ..) }

-- Puts a batch in, and then lets the oldest go, once.
def merge (b : Buffer) (batch : List Item) : Buffer × Delta :=
  let (grown, d) := b.addAll {} batch
  (grown.trim, grown.overflow.foldl (fun d item => d.evict item.id) d)

def insert (b : Buffer) (item : Item) : Buffer × Delta := b.merge [item]

def clear (b : Buffer) : Buffer × Delta :=
  if b.items.isEmpty then (b, {}) else (empty b.maxItems, { cleared := true })

end Buffer

end FilteredFeed.Timeline
