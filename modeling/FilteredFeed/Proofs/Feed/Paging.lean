import FilteredFeed.Pattern.Builtin
import FilteredFeed.Proofs.Timeline.Offers

namespace FilteredFeed.Feed.Storage

open FilteredFeed.Clause FilteredFeed.Filter FilteredFeed.Timeline

section

variable [Patterns]
variable {s s' : Storage} {x last : Item} {items more page : List Item} {n : Nat} {text : String}
variable {condition : Condition} {before : Option ItemId}

-- One call on storage.
inductive Call where
  | insert (item : Item)
  | extend (items : List Item)
  | query (text : String) (before : Option ItemId) (limit : Option Nat)
deriving DecidableEq, Repr

def call (s : Storage) : Call → Storage
  | .insert item => s.insert item
  | .extend items => s.insertAll items
  | .query text before limit => (s.query text before limit).2

-- New storage after some calls.
def called (calls : List Call) : Storage := calls.foldl call {}

-- The items that a call puts in.
def Call.offers : Call → List Item
  | .insert item => [item]
  | .extend items => items
  | .query .. => []

-- The items that calls have put in, the last of them at the end.
def offered (calls : List Call) : List Item := calls.flatMap Call.offers

theorem called_concat (calls : List Call) (c : Call) :
    called (calls ++ [c]) = (called calls).call c := by
  simp [called]

omit [Patterns] in
theorem offered_concat (calls : List Call) (c : Call) :
    offered (calls ++ [c]) = offered calls ++ c.offers := by
  simp [offered]

-- What storage holds after more items does not depend on what it was asked before.
omit [Patterns] in
theorem items_insertAll (s : Storage) (more : List Item) :
    (s.insertAll more).items = more.foldl (fun items item => store item items) s.items := by
  unfold insertAll
  induction more generalizing s with
  | nil => rfl
  | cons item more ih => exact ih (s.insert item)

omit [Patterns] in
theorem items_ofList_append (items more : List Item) :
    (ofList (items ++ more)).items =
      more.foldl (fun items item => store item items) (ofList items).items := by
  rw [ofList, ofList, items_insertAll, items_insertAll, List.foldl_append]

theorem items_called (calls : List Call) :
    (called calls).items = (ofList (offered calls)).items := by
  induction calls using List.reverseRecOn with
  | nil => rfl
  | append_singleton calls c ih =>
      rw [called_concat, offered_concat, items_ofList_append, ← ih]
      cases c with
      | insert item => rfl
      | extend items => exact items_insertAll _ items
      | query text before limit => exact items_query _ text before limit

theorem distinct_called (calls : List Call) : Distinct (called calls).items := by
  rw [items_called]
  exact distinct_ofList _

theorem mem_called {calls : List Call} :
    x ∈ (called calls).items ↔ x ∈ latest (offered calls) := by
  rw [items_called]
  exact mem_ofList _

theorem mem_select : x ∈ s.select condition before none ↔
    x ∈ s.items ∧ (∀ id ∈ before, x.id < id) ∧ condition.holds x = true := by
  have hbefore : before.all (x.id < ·) = true ↔ ∀ id ∈ before, x.id < id := by
    cases before <;> simp
  simp only [select, mem_newestFirst, List.mem_filter, Bool.and_eq_true, hbefore]

theorem descending_select (h : Distinct s.items) :
    Descending (s.select condition before none) :=
  descending_newestFirst (h.filter _)

theorem select_some (s : Storage) (condition : Condition) (before : Option ItemId) (limit : Nat) :
    s.select condition before (some limit) = (s.select condition before none).take limit := rfl

theorem select_congr (h : s'.items = s.items) (condition : Condition) (before : Option ItemId)
    (limit : Option Nat) : s'.select condition before limit = s.select condition before limit := by
  simp only [select, h]

-- Two storages with the same items select the same, in whichever order the items came.
theorem select_of_mem_iff (hs : Distinct s.items) (hs' : Distinct s'.items)
    (h : ∀ x, x ∈ s'.items ↔ x ∈ s.items) (condition : Condition) (before : Option ItemId)
    (limit : Option Nat) : s'.select condition before limit = s.select condition before limit := by
  have hd : Descending (s.select condition before none) := descending_select hs
  have hd' : Descending (s'.select condition before none) := descending_select hs'
  have hsame : s'.select condition before none = s.select condition before none := by
    apply hd'.eq_of_perm hd
    rw [List.perm_ext_iff_of_nodup hd'.nodup hd.nodup]
    intro x
    rw [mem_select, mem_select, h]
  cases limit with
  | none => exact hsame
  | some limit => rw [select_some, select_some, hsame]

theorem query_of_parse (hparse : Condition.parse text = .ok condition) (s : Storage)
    (before : Option ItemId) (limit : Option Nat) :
    (s.query text before limit).1 = .ok (s.select condition before limit) := by
  unfold query
  dsimp only
  rw [hparse]
  rfl

-- What comes after so many is what is older than the last of them.
omit [Patterns] in
theorem mem_drop_iff (h : Descending items) (hlast : (items.take n).getLast? = some last) :
    x ∈ items.drop n ↔ x ∈ items ∧ x.id < last.id := by
  have hsplit : items.take n ++ items.drop n = items := List.take_append_drop n items
  have hmem : last ∈ items.take n := List.mem_of_getLast? hlast
  have hcross : ∀ a ∈ items.take n, ∀ b ∈ items.drop n, b.id < a.id := by
    rw [Descending, ← hsplit, List.pairwise_append] at h
    exact h.2.2
  have hfirst : ∀ a ∈ items.take n, ¬ a.id < last.id := by
    obtain ⟨front, hfront⟩ := List.getLast?_eq_some_iff.mp hlast
    have hpage : Descending (items.take n) := h.sublist (List.take_sublist ..)
    rw [hfront] at hpage ⊢
    obtain ⟨-, -, hends⟩ := List.pairwise_append.mp hpage
    intro a ha hlt
    rcases List.mem_append.mp ha with hin | hend
    · exact UInt64.lt_irrefl _ (UInt64.lt_trans hlt (hends a hin last (List.mem_singleton_self last)))
    · obtain rfl := List.mem_singleton.mp hend
      exact UInt64.lt_irrefl _ hlt
  constructor
  · intro hx
    exact ⟨List.mem_of_mem_drop hx, hcross last hmem x hx⟩
  · rintro ⟨hx, hlt⟩
    rw [← hsplit] at hx
    exact (List.mem_append.mp hx).resolve_left fun htake => hfirst x htake hlt

-- Asking before the last id of a page gives what that page has left.
theorem select_after (h : Distinct s.items)
    (hlast : (s.select condition before (some n)).getLast? = some last) :
    s.select condition (some last.id) none = (s.select condition before none).drop n := by
  have hd : Descending (s.select condition before none) := descending_select h
  have hrest : Descending ((s.select condition before none).drop n) :=
    hd.sublist (List.drop_sublist ..)
  have holder : Descending (s.select condition (some last.id) none) := descending_select h
  have hbefore : ∀ id ∈ before, last.id < id :=
    (mem_select.mp (List.mem_of_mem_take (List.mem_of_getLast? hlast))).2.1
  apply holder.eq_of_perm hrest
  rw [List.perm_ext_iff_of_nodup holder.nodup hrest.nodup]
  intro x
  rw [mem_drop_iff hd hlast, mem_select, mem_select]
  constructor
  · rintro ⟨hx, hlt, hholds⟩
    have hold : x.id < last.id := hlt last.id rfl
    exact ⟨⟨hx, fun id hid => UInt64.lt_trans hold (hbefore id hid), hholds⟩, hold⟩
  · rintro ⟨⟨hx, -, hholds⟩, hold⟩
    refine ⟨hx, ?_, hholds⟩
    rintro _ ⟨⟩
    exact hold

-- Storage is asked for a page, and then for the next one with the last id of that page, until a
-- page is empty.
inductive Pages (text : String) (n : Nat) : Storage → Option ItemId → List (List Item) → Prop where
  | done {s : Storage} {before : Option ItemId} :
      (s.query text before (some n)).1 = .ok [] → Pages text n s before []
  | more {s : Storage} {before : Option ItemId} {page : List Item} {last : Item}
      {pages : List (List Item)} :
      (s.query text before (some n)).1 = .ok page → page.getLast? = some last →
      Pages text n (s.query text before (some n)).2 (some last.id) pages →
      Pages text n s before (page :: pages)

-- Storage leaves nobody who asks a choice.
theorem Pages.unique {pages pages' : List (List Item)} (h : Pages text n s before pages)
    (h' : Pages text n s before pages') : pages = pages' := by
  induction h generalizing pages' with
  | done hnone =>
      cases h' with
      | done _ => rfl
      | more hpage hlast _ =>
          obtain rfl := Except.ok.inj (hnone.symm.trans hpage)
          cases hlast
  | more hpage hlast _ ih =>
      cases h' with
      | done hnone =>
          obtain rfl := Except.ok.inj (hpage.symm.trans hnone)
          cases hlast
      | more hpage' hlast' hrest =>
          obtain rfl := Except.ok.inj (hpage.symm.trans hpage')
          obtain rfl := Option.some.inj (hlast.symm.trans hlast')
          rw [ih hrest]

-- Every page leaves less, so there is an end to them.
theorem exists_pages (hparse : Condition.parse text = .ok condition) (hn : 0 < n)
    (h : Distinct s.items) (before : Option ItemId) : ∃ pages, Pages text n s before pages := by
  induction hleft : (s.select condition before none).length using Nat.strongRecOn
    generalizing s before with
  | ind left ih =>
      have hquery := query_of_parse hparse s before (some n)
      cases hlast : (s.select condition before (some n)).getLast? with
      | none =>
          rw [List.getLast?_eq_none_iff] at hlast
          rw [hlast] at hquery
          exact ⟨[], .done hquery⟩
      | some last =>
          have hitems := items_query s text before (some n)
          have hnext : (s.query text before (some n)).2.select condition (some last.id) none =
              (s.select condition before none).drop n := by
            rw [select_congr hitems, select_after h hlast]
          have hsome : 0 < (s.select condition before none).length :=
            List.length_pos_of_mem (List.mem_of_mem_take (List.mem_of_getLast? hlast))
          have hless : ((s.query text before (some n)).2.select condition (some last.id) none).length
              < left := by
            rw [hnext, List.length_drop]
            omega
          obtain ⟨pages, hpages⟩ := ih _ hless (s := (s.query text before (some n)).2)
            (by rwa [hitems]) (some last.id) rfl
          exact ⟨_, .more hquery hlast hpages⟩

-- The pages put together are what storage gives at once.
theorem Pages.flatten {pages : List (List Item)} (h : Pages text n s before pages)
    (hparse : Condition.parse text = .ok condition) (hn : 0 < n) (hs : Distinct s.items) :
    pages.flatten = s.select condition before none := by
  induction h with
  | @done s before hnone =>
      rw [query_of_parse hparse] at hnone
      have hempty : (s.select condition before none).take n = [] := Except.ok.inj hnone
      rw [List.take_eq_nil_iff] at hempty
      exact (hempty.resolve_left (Nat.ne_of_gt hn)).symm
  | @more s before page last pages hpage hlast _ ih =>
      rw [query_of_parse hparse] at hpage
      obtain rfl := Except.ok.inj hpage
      have hitems := items_query s text before (some n)
      rw [List.flatten_cons, ih (by rwa [hitems]), select_congr hitems, select_after hs hlast,
        select_some]
      exact List.take_append_drop ..

-- No page is empty or too long.
theorem Pages.length_le {pages : List (List Item)} (h : Pages text n s before pages)
    (hparse : Condition.parse text = .ok condition) :
    ∀ page ∈ pages, 0 < page.length ∧ page.length ≤ n := by
  induction h with
  | done _ => simp
  | @more s before page last pages hpage hlast _ ih =>
      rw [query_of_parse hparse] at hpage
      obtain rfl := Except.ok.inj hpage
      refine List.forall_mem_cons.mpr ⟨⟨?_, ?_⟩, ih⟩
      · exact List.length_pos_of_mem (List.mem_of_getLast? hlast)
      · rw [select_some, List.length_take]
        exact Nat.min_le_left ..

-- Whatever items were put into storage, and in whichever order, it has each id once with its last
-- item, and a query gets the newest of those that it selects. Who asks for page after page gets all
-- of them, each once, and comes to an end.
theorem query_newest_pages (calls : List Call) :
    Distinct (called calls).items ∧
    (∀ x, x ∈ (called calls).items ↔ ∃ earlier later,
      offered calls = earlier ++ x :: later ∧ ∀ y ∈ later, x.id ≠ y.id) ∧
    (∀ other, (∀ x, x ∈ (called other).items ↔ x ∈ (called calls).items) →
      ∀ text before limit, ((called other).query text before limit).1 =
        ((called calls).query text before limit).1) ∧
    ∀ text condition, Condition.parse text = .ok condition →
      (∀ before, ∃ found, Descending found ∧
        (∀ x, x ∈ found ↔
          x ∈ (called calls).items ∧ (∀ id ∈ before, x.id < id) ∧ condition.holds x = true) ∧
        ((called calls).query text before none).1 = .ok found ∧
        ∀ limit, ((called calls).query text before (some limit)).1 = .ok (found.take limit)) ∧
      ∀ n, 0 < n → ∃ pages, Pages text n (called calls) none pages ∧
        (∀ other, Pages text n (called calls) none other → other = pages) ∧
        (∀ page ∈ pages, 0 < page.length ∧ page.length ≤ n) ∧
        ((called calls).query text none none).1 = .ok pages.flatten := by
  have hdistinct : Distinct (called calls).items := distinct_called calls
  refine ⟨hdistinct, fun x => mem_called.trans mem_latest_iff, ?_, ?_⟩
  · intro other hsame text before limit
    cases hparse : Condition.parse text with
    | error e => simp only [query, hparse]
    | ok condition =>
        rw [query_of_parse hparse, query_of_parse hparse,
          select_of_mem_iff hdistinct (distinct_called other) hsame]
  · intro text condition hparse
    constructor
    · intro before
      exact ⟨(called calls).select condition before none, descending_select hdistinct,
        fun x => mem_select, query_of_parse hparse _ before none,
        fun limit => query_of_parse hparse _ before (some limit)⟩
    · intro n hn
      obtain ⟨pages, hpages⟩ := exists_pages hparse hn hdistinct none
      refine ⟨pages, hpages, fun other hother => hother.unique hpages, hpages.length_le hparse, ?_⟩
      rw [query_of_parse hparse, hpages.flatten hparse hn hdistinct]

end

-- Three items with pictures and one without, the oldest put in again, by pages of two.
theorem query_newest_pages_pictures :
    let pictures : Expr := .compare .hasMedia (.relation .eq) (.bool true)
    let text := pictures.compile.queryText
    let calls : List Call := [.insert { id := 2, author := "a" },
      .extend [{ id := 9, author := "b", hasMedia := true }, { id := 5, author := "c" }],
      .query text (some 5) none, .insert { id := 7, author := "d", hasMedia := true },
      .insert { id := 2, author := "e", hasMedia := true }]
    Condition.parse text = .ok (pictures.condition maxDepth) ∧
    ∃ pages, Pages text 2 (called calls) none pages ∧ pages.flatten.map Item.id = [9, 7, 2] := by
  intro pictures text calls
  have hparse : Condition.parse text = .ok (pictures.condition maxDepth) := parse_compile pictures
  have hfound : (called calls).items.filter (fun item =>
      (none : Option ItemId).all (item.id < ·) && (pictures.condition maxDepth).holds item) =
        [{ id := 2, author := "e", hasMedia := true }, { id := 9, author := "b", hasMedia := true },
          { id := 7, author := "d", hasMedia := true }] := by
    simp only [items_called, holds_condition]
    decide
  have hall : (called calls).select (pictures.condition maxDepth) none none =
      [{ id := 9, author := "b", hasMedia := true }, { id := 7, author := "d", hasMedia := true },
        { id := 2, author := "e", hasMedia := true }] := by
    apply (descending_select (distinct_called calls)).eq_of_perm
    · simp [Descending]
    · unfold select
      rw [hfound]
      exact (List.mergeSort_perm _ _).trans (by decide)
  obtain ⟨pages, hpages, -, -, hflatten⟩ :=
    ((query_newest_pages calls).2.2.2 text _ hparse).2 2 (by decide)
  rw [query_of_parse hparse, hall] at hflatten
  refine ⟨hparse, pages, hpages, ?_⟩
  rw [← Except.ok.inj hflatten]
  rfl

end FilteredFeed.Feed.Storage
