import FilteredFeed.Proofs.Timeline.Buffer
import Mathlib.Data.Finset.Basic
import Mathlib.Data.Finset.Dedup
import Mathlib.Data.Finset.SDiff

namespace FilteredFeed

open FilteredFeed.Feed FilteredFeed.Timeline

namespace Timeline

variable {known now : Finset ItemId} {id : ItemId} {d : Delta}

namespace Delta

-- What is left, before anything is put in, of the ids that were there.
def base (d : Delta) (known : Finset ItemId) : Finset ItemId := if d.cleared then ∅ else known

-- The ids that are there after a delta, by one who knew those that were there before.
def learn (d : Delta) (known : Finset ItemId) : Finset ItemId :=
  (d.base known ∪ d.inserted.toFinset) \ d.evicted.toFinset

-- A delta says nothing that is not true of the ids that were there.
structure Fits (d : Delta) (known : Finset ItemId) : Prop where
  inserted : ∀ id ∈ d.inserted, id ∉ d.base known
  updated : ∀ id ∈ d.updated, id ∈ d.base known ∧ id ∈ d.learn known
  evicted : ∀ id ∈ d.evicted, id ∈ d.base known
  once : (d.inserted ++ d.evicted).Nodup

@[simp] theorem learn_empty (known : Finset ItemId) : learn {} known = known := by
  simp [learn, base]

theorem fits_empty (known : Finset ItemId) : Fits {} known := ⟨nofun, nofun, nofun, .nil⟩

theorem eq_empty_of_isEmpty (h : d.isEmpty = true) : d = {} := by
  obtain ⟨inserted, updated, evicted, cleared⟩ := d
  simp only [isEmpty, Bool.and_eq_true, Bool.not_eq_true', List.isEmpty_iff] at h
  obtain ⟨⟨⟨rfl, rfl⟩, rfl⟩, rfl⟩ := h
  rfl

-- How far a delta has got that is still being put together: it accounts for the ids that are there
-- now, from those that were there when it was begun.
structure Tracks (d : Delta) (known now : Finset ItemId) : Prop where
  kept : d.cleared = false
  inserted : ∀ id ∈ d.inserted, id ∉ known
  updated : ∀ id ∈ d.updated, id ∈ known ∧ id ∉ d.evicted
  evicted : ∀ id ∈ d.evicted, id ∈ known
  once : d.inserted.Nodup ∧ d.evicted.Nodup
  now : ∀ id, id ∈ now ↔ (id ∈ known ∨ id ∈ d.inserted) ∧ id ∉ d.evicted

theorem tracks_empty (known : Finset ItemId) : Tracks {} known known :=
  ⟨rfl, nofun, nofun, nofun, ⟨.nil, .nil⟩, by simp⟩

theorem Tracks.learn (h : Tracks d known now) : d.learn known = now := by
  ext id
  simp [Delta.learn, base, h.kept, h.now]

theorem Tracks.fits (h : Tracks d known now) : d.Fits known := by
  have hbase : d.base known = known := by simp [base, h.kept]
  refine ⟨?_, ?_, ?_, ?_⟩
  · rw [hbase]
    exact h.inserted
  · rw [hbase, h.learn]
    intro id hmem
    obtain ⟨hknown, hkept⟩ := h.updated id hmem
    exact ⟨hknown, (h.now id).mpr ⟨.inl hknown, hkept⟩⟩
  · rw [hbase]
    exact h.evicted
  · exact List.nodup_append'.mpr
      ⟨h.once.1, h.once.2, fun id hin hout => h.inserted id hin (h.evicted id hout)⟩

-- As long as nothing had to go.
theorem Tracks.offer (h : Tracks d known now) (hnone : d.evicted = []) {present : Bool}
    (hpresent : present = true ↔ id ∈ now) : Tracks (d.offer id present) known (insert id now) := by
  have hnow := h.now
  simp only [hnone, List.not_mem_nil, not_false_eq_true, and_true] at hnow
  cases present with
  | true =>
      have hid := hpresent.mp rfl
      have hinsert : insert id now = now := Finset.insert_eq_self.mpr hid
      unfold Delta.offer
      rw [if_pos rfl, hinsert]
      split
      · exact h
      · rename_i hnew
        have hknown : id ∈ known := ((hnow id).mp hid).resolve_right fun hin => hnew (by simp [hin])
        refine ⟨h.kept, h.inserted, fun x hmem => ?_, h.evicted, h.once, h.now⟩
        rcases List.mem_append.mp hmem with hmem | hmem
        · exact h.updated x hmem
        · rw [List.mem_singleton.mp hmem]
          exact ⟨hknown, by simp [hnone]⟩
  | false =>
      have hid : id ∉ now := fun hmem => Bool.noConfusion (hpresent.mpr hmem)
      have hfresh : id ∉ known ∧ id ∉ d.inserted := not_or.mp (mt (hnow id).mpr hid)
      refine ⟨h.kept, fun x hmem => ?_, h.updated, h.evicted, ⟨?_, h.once.2⟩, fun x => ?_⟩
      · rcases List.mem_append.mp hmem with hmem | hmem
        · exact h.inserted x hmem
        · rw [List.mem_singleton.mp hmem]
          exact hfresh.1
      · change (d.inserted ++ [id]).Nodup
        refine List.nodup_append'.mpr ⟨h.once.1, List.nodup_singleton id, ?_⟩
        simpa using hfresh.2
      · change _ ↔ (_ ∨ x ∈ d.inserted ++ [id]) ∧ x ∉ d.evicted
        simp only [Finset.mem_insert, hnow, hnone, List.mem_append, List.mem_singleton]
        tauto

theorem evicted_offer (d : Delta) (id : ItemId) (present : Bool) :
    (d.offer id present).evicted = d.evicted := by
  unfold offer
  split
  · split <;> rfl
  · rfl

theorem Tracks.evict (h : Tracks d known now) (hid : id ∈ now) :
    Tracks (d.evict id) known (now.erase id) := by
  obtain ⟨hsource, hkept⟩ := (h.now id).mp hid
  unfold Delta.evict
  split
  · rename_i hin
    have hin : id ∈ d.inserted := by simpa using hin
    refine ⟨h.kept, fun x hmem => h.inserted x (List.mem_of_mem_erase hmem), h.updated, h.evicted,
      ⟨h.once.1.erase id, h.once.2⟩, fun x => ?_⟩
    have hnew := h.inserted id hin
    simp only [Finset.mem_erase, h.now, h.once.1.mem_erase_iff]
    by_cases hx : x = id
    · subst hx
      simp [hnew]
    · simp [hx]
  · rename_i hout
    have hout : id ∉ d.inserted := by simpa using hout
    have hknown : id ∈ known := hsource.resolve_right hout
    refine ⟨h.kept, h.inserted, fun x hmem => ?_, fun x hmem => ?_, ⟨h.once.1, ?_⟩, fun x => ?_⟩
    · obtain ⟨hmem, hne⟩ := List.mem_filter.mp hmem
      obtain ⟨hx, hgone⟩ := h.updated x hmem
      exact ⟨hx, by simpa [hgone] using hne⟩
    · rcases List.mem_append.mp hmem with hmem | hmem
      · exact h.evicted x hmem
      · rw [List.mem_singleton.mp hmem]
        exact hknown
    · refine List.nodup_append'.mpr ⟨h.once.2, List.nodup_singleton id, ?_⟩
      simpa using hkept
    · simp only [Finset.mem_erase, h.now, List.mem_append, List.mem_singleton]
      tauto

theorem Tracks.evictAll {gone : List Item} (h : Tracks d known now)
    (hgone : ∀ x ∈ gone, x.id ∈ now) (honce : (gone.map Item.id).Nodup) :
    Tracks (gone.foldl (fun d item => d.evict item.id) d) known
      (now \ (gone.map Item.id).toFinset) := by
  induction gone generalizing d now with
  | nil => simpa using h
  | cons item gone ih =>
      obtain ⟨hfirst, honce⟩ := List.nodup_cons.mp honce
      have hevicted := h.evict (hgone item List.mem_cons_self)
      have hrest : ∀ x ∈ gone, x.id ∈ now.erase item.id := by
        intro x hmem
        refine Finset.mem_erase.mpr ⟨fun heq => hfirst ?_, hgone x (List.mem_cons_of_mem _ hmem)⟩
        exact heq ▸ List.mem_map_of_mem hmem
      have hleft : now.erase item.id \ (gone.map Item.id).toFinset =
          now \ ((item :: gone).map Item.id).toFinset := by
        ext id
        simp only [List.map_cons, List.toFinset_cons, Finset.mem_sdiff, Finset.mem_erase,
          Finset.mem_insert]
        tauto
      exact hleft ▸ ih hevicted hrest honce

end Delta

namespace Buffer

variable {b : Buffer} {batch : List Item}

-- The ids of the items in a buffer.
def ids (b : Buffer) : Finset ItemId := (b.items.map Item.id).toFinset

theorem contains_iff : b.contains id = true ↔ id ∈ b.ids := by
  simp [contains, ids]

theorem ids_put (item : Item) (items : List Item) :
    ((put item items).map Item.id).toFinset =
      Insert.insert item.id (items.map Item.id).toFinset := by
  induction items with
  | nil => rfl
  | cons x rest ih =>
      unfold put
      split
      · simp
      · split
        · rename_i heq
          simp [heq]
        · simp only [List.map_cons, List.toFinset_cons, ih]
          exact Finset.insert_comm ..

theorem ids_add (b : Buffer) (item : Item) : (b.add item).ids = Insert.insert item.id b.ids :=
  ids_put item b.items

theorem nodup_ids (b : Buffer) : (b.items.map Item.id).Nodup := by
  refine List.pairwise_map.mpr (b.descending.imp fun hlt heq => ?_)
  rw [heq] at hlt
  exact UInt64.lt_irrefl _ hlt

theorem tracks_addAll (h : d.Tracks known b.ids) (hnone : d.evicted = []) :
    (b.addAll d batch).2.Tracks known (b.addAll d batch).1.ids := by
  induction batch generalizing b d with
  | nil => exact h
  | cons item batch ih =>
      have hcontains : b.contains item.id = true ↔ item.id ∈ b.ids := contains_iff
      have hoffered := h.offer hnone hcontains
      rw [← ids_add] at hoffered
      exact ih hoffered ((d.evicted_offer ..).trans hnone)

theorem ids_trim (b : Buffer) : b.trim.ids = b.ids \ (b.overflow.map Item.id).toFinset := by
  have honce := b.nodup_ids
  rw [← List.take_append_drop b.maxItems b.items, List.map_append] at honce
  have happart := (List.nodup_append'.mp honce).2.2
  ext id
  have hsplit : id ∈ b.ids ↔ id ∈ (b.items.take b.maxItems).map Item.id ∨
      id ∈ (b.items.drop b.maxItems).map Item.id := by
    rw [← List.mem_append, ← List.map_append, List.take_append_drop, ids, List.mem_toFinset]
  have htrim : id ∈ b.trim.ids ↔ id ∈ (b.items.take b.maxItems).map Item.id := List.mem_toFinset
  have hoverflow : id ∈ (b.overflow.map Item.id).toFinset ↔
      id ∈ (b.items.drop b.maxItems).map Item.id := by
    simp [overflow]
  rw [Finset.mem_sdiff, htrim, hoverflow, hsplit]
  exact ⟨fun hin => ⟨.inl hin, happart hin⟩, fun hin => hin.1.resolve_right hin.2⟩

-- A batch is accounted for by its delta.
theorem tracks_merge (b : Buffer) (batch : List Item) :
    (b.merge batch).2.Tracks b.ids (b.merge batch).1.ids := by
  have hgrown : (b.addAll {} batch).2.Tracks b.ids (b.addAll {} batch).1.ids :=
    tracks_addAll (Delta.tracks_empty b.ids) rfl
  let grown := (b.addAll {} batch).1
  have hgone : ∀ x ∈ grown.overflow, x.id ∈ grown.ids := fun x hmem =>
    List.mem_toFinset.mpr (List.mem_map_of_mem (List.mem_of_mem_drop (List.mem_reverse.mp hmem)))
  have honce : (grown.overflow.map Item.id).Nodup := by
    rw [overflow, List.map_reverse]
    refine List.nodup_reverse.mpr (grown.nodup_ids.sublist ?_)
    exact (List.drop_sublist ..).map _
  have hmerged := hgrown.evictAll hgone honce
  rw [← ids_trim] at hmerged
  exact hmerged

theorem ids_clear (b : Buffer) : b.clear.1.ids = ∅ := by
  simp [ids]

theorem clear_of_empty (h : b.items = []) : b.clear = (b, {}) := by
  simp [clear, h]

theorem fits_clear (b : Buffer) (known : Finset ItemId) : b.clear.2.Fits known := by
  unfold clear
  split
  · exact Delta.fits_empty known
  · exact ⟨nofun, nofun, nofun, .nil⟩

theorem learn_clear (b : Buffer) : b.clear.2.learn b.ids = ∅ := by
  unfold clear
  split
  · rename_i h
    simpa [ids] using h
  · simp [Delta.learn, Delta.base]

end Buffer

-- Logs are lists of events with the newest first.

-- The ids that are there after an event.
def Event.learn (known : Finset ItemId) : Event → Finset ItemId
  | .bufferChanged delta => delta.learn known
  | .refetchFailed _ _ => known

def Event.Fits (known : Finset ItemId) : Event → Prop
  | .bufferChanged delta => delta.Fits known
  | .refetchFailed _ _ => True

-- What somebody knows who has read a log, and nothing else.
def learned : List Event → Finset ItemId
  | [] => ∅
  | event :: log => event.learn (learned log)

-- Every event of a log fits what is known from those before.
def Faithful : List Event → Prop
  | [] => True
  | event :: log => event.Fits (learned log) ∧ Faithful log

theorem learned_eq_foldl (log : List Event) : learned log = log.reverse.foldl Event.learn ∅ := by
  induction log with
  | nil => rfl
  | cons event log ih => simp [learned, ih]

theorem Faithful.drop {before log : List Event} (h : Faithful (before ++ log)) : Faithful log := by
  induction before with
  | nil => exact h
  | cons event before ih => exact ih h.2

-- In the order in which the events were emitted.
theorem Faithful.fits {log before after : List Event} (h : Faithful log)
    (hlog : log.reverse = before ++ .bufferChanged d :: after) :
    d.Fits (before.foldl Event.learn ∅) := by
  have hsplit : log = after.reverse ++ .bufferChanged d :: before.reverse := by
    rw [← List.reverse_inj, hlog]
    simp
  rw [hsplit] at h
  have hfits : d.Fits (learned before.reverse) := h.drop.1
  rwa [learned_eq_foldl, List.reverse_reverse] at hfits

-- What is known comes to the ids that are there once all deltas are said that are still owed.
def Owes (known : Finset ItemId) : List Delta → Finset ItemId → Prop
  | [], now => known = now
  | d :: owed, now => d.Fits known ∧ Owes (d.learn known) owed now

end Timeline

variable [Patterns]
variable {T : Timeline} {owed : List Delta} {d : Delta}

namespace Timeline

-- The log of a timeline is right but for the deltas that it owes. It owes none as long as its
-- buffer can change.
structure Logs (T : Timeline) (owed : List Delta) : Prop where
  faithful : Faithful T.events
  owes : Owes (learned T.events) owed T.buffer.ids
  still : owed ≠ [] → T.phase.isActive = false ∧ T.buffer.items = []

theorem Logs.congr {T' : Timeline} (h : T.Logs owed) (hevents : T'.events = T.events)
    (hbuffer : T'.buffer = T.buffer)
    (hphase : owed = [] ∨ T'.phase.isActive = T.phase.isActive ∨ T'.phase.isActive = false) :
    T'.Logs owed := by
  refine ⟨hevents ▸ h.faithful, by rw [hevents, hbuffer]; exact h.owes, fun howed => ?_⟩
  obtain ⟨hstill, hempty⟩ := h.still howed
  refine ⟨?_, hbuffer ▸ hempty⟩
  rcases hphase with hnone | hsame | hinactive
  · exact absurd hnone howed
  · exact hsame.trans hstill
  · exact hinactive

theorem emit_buffer (T : Timeline) (d : Delta) : (T.emit d).buffer = T.buffer := by
  unfold emit
  split <;> rfl

theorem emit_phase (T : Timeline) (d : Delta) : (T.emit d).phase = T.phase := by
  unfold emit
  split <;> rfl

theorem learned_emit (T : Timeline) (d : Delta) :
    learned (T.emit d).events = d.learn (learned T.events) := by
  unfold emit
  split
  · rename_i hnone
    rw [Delta.eq_empty_of_isEmpty hnone, Delta.learn_empty]
  · rfl

theorem faithful_emit (h : Faithful T.events) (hfits : d.Fits (learned T.events)) :
    Faithful (T.emit d).events := by
  unfold emit
  split
  · exact h
  · exact ⟨hfits, h⟩

-- A delta that is owed is said.
theorem Logs.emit (h : T.Logs (d :: owed)) : (T.emit d).Logs owed := by
  obtain ⟨hfits, howes⟩ := h.owes
  obtain ⟨hstill, hempty⟩ := h.still (List.cons_ne_nil d owed)
  refine ⟨faithful_emit h.faithful hfits, ?_, fun _ => ?_⟩
  · rw [learned_emit, emit_buffer]
    exact howes
  · rw [emit_phase, emit_buffer]
    exact ⟨hstill, hempty⟩

theorem Logs.learned_eq (h : T.Logs []) : learned T.events = T.buffer.ids := h.owes

-- A buffer that changes, and says so at once.
theorem Logs.say {T' : Timeline} (h : T.Logs []) (hevents : T'.events = T.events)
    (hfits : d.Fits T.buffer.ids) (hlearn : d.learn T.buffer.ids = T'.buffer.ids) :
    (T'.emit d).Logs [] := by
  have hlearned : learned T'.events = T.buffer.ids := by
    rw [hevents]
    exact h.learned_eq
  refine ⟨faithful_emit (hevents ▸ h.faithful) (hlearned ▸ hfits), ?_, nofun⟩
  change learned (T'.emit d).events = (T'.emit d).buffer.ids
  rw [learned_emit, emit_buffer, hlearned, hlearn]

-- A buffer that is cleared says so at once, and has nothing to say if anything is owed.
theorem Logs.clear {T' : Timeline} (h : T.Logs owed) (hevents : T'.events = T.events)
    (hbuffer : T'.buffer = T.buffer.clear.1)
    (hphase : T'.phase.isActive = T.phase.isActive) : (T'.emit T.buffer.clear.2).Logs owed := by
  cases owed with
  | nil =>
      refine h.say hevents (T.buffer.fits_clear _) ?_
      rw [hbuffer, T.buffer.learn_clear, T.buffer.ids_clear]
  | cons first owed =>
      have hclear := Buffer.clear_of_empty (h.still (List.cons_ne_nil first owed)).2
      rw [hclear] at hbuffer ⊢
      exact h.congr hevents hbuffer (.inr (.inl hphase))

-- A buffer that is cleared may also say so later, if it cannot change meanwhile.
theorem Logs.postpone {T' : Timeline} (h : T.Logs owed) (hevents : T'.events = T.events)
    (hbuffer : T'.buffer = T.buffer.clear.1) (hphase : T'.phase.isActive = false) :
    T'.Logs (T.buffer.clear.2 :: owed) := by
  have hcleared : T'.buffer.ids = ∅ := by
    rw [hbuffer]
    exact T.buffer.ids_clear
  have hempty : T'.buffer.items = [] := by
    rw [hbuffer]
    exact Buffer.items_clear _
  refine ⟨hevents ▸ h.faithful, ?_, fun _ => ⟨hphase, hempty⟩⟩
  rw [hevents, hcleared]
  refine ⟨T.buffer.fits_clear _, ?_⟩
  cases owed with
  | nil =>
      rw [h.learned_eq]
      exact T.buffer.learn_clear
  | cons first owed =>
      have hwas := (h.still (List.cons_ne_nil first owed)).2
      have howes := h.owes
      rw [Buffer.clear_of_empty hwas, Delta.learn_empty]
      rwa [Buffer.ids, hwas] at howes

theorem Logs.absorb (h : T.Logs []) (items : List Item) : (T.absorb items).1.Logs [] := by
  have htracks := T.buffer.tracks_merge items
  exact h.say rfl htracks.fits htracks.learn

theorem Logs.receive (h : T.Logs []) (item : Item) : (T.receive item).Logs [] := by
  have habsorbed := h.absorb [item]
  unfold Timeline.receive
  dsimp only
  split
  · exact habsorbed.congr rfl rfl (.inl rfl)
  · exact habsorbed

theorem Logs.fail (h : T.Logs []) (generation : Nat) (reason : String) :
    (T.emitEvent (.refetchFailed generation reason)).Logs [] :=
  ⟨⟨trivial, h.faithful⟩, h.owes, nofun⟩

end Timeline

end FilteredFeed
