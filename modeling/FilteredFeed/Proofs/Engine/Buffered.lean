import FilteredFeed.Feed.Storage
import FilteredFeed.Pattern.Builtin
import FilteredFeed.Proofs.Engine.Reachable
import FilteredFeed.Proofs.Filter.Translation

namespace FilteredFeed

open FilteredFeed.Clause FilteredFeed.Feed FilteredFeed.Filter FilteredFeed.Timeline
open FilteredFeed.Scenario (Asker)

namespace Feed

variable [Patterns]

-- Storage returns nothing that the text it was given does not select.
def Selects (text : String) (items : List Item) : Prop :=
  ∃ condition, Condition.parse text = .ok condition ∧ ∀ item ∈ items, condition.holds item = true

-- Only items for which the condition holds are selected, in whatever order and up to any limit.
theorem holds_of_mem_select {s : Storage} {condition : Condition} {before : Option ItemId}
    {limit : Option Nat} {item : Item} (h : item ∈ s.select condition before limit) :
    condition.holds item = true := by
  have hfound : item ∈ s.items.filter fun item =>
      before.all (item.id < ·) && condition.holds item := by
    unfold Storage.select at h
    dsimp only at h
    split at h
    · exact List.mem_mergeSort.mp (List.mem_of_mem_take h)
    · exact List.mem_mergeSort.mp h
  have hboth := (List.mem_filter.mp hfound).2
  exact (Bool.and_eq_true_iff.mp hboth).2

theorem selects_query {s : Storage} {text : String} {before : Option ItemId}
    {limit : Option Nat} {items : List Item} (h : (s.query text before limit).1 = .ok items) :
    Selects text items := by
  unfold Storage.query at h
  dsimp only at h
  split at h
  · cases h
  · rename_i condition hparse
    obtain rfl := Except.ok.inj h
    exact ⟨condition, hparse, fun item hitem => holds_of_mem_select hitem⟩

-- What the text of a compiled filter selects, the filter accepts.
theorem Selects.accepts {expr : Expr} {items : List Item}
    (h : Selects expr.compile.queryText items) :
    ∀ item ∈ items, expr.compile.accepts item = true := by
  obtain ⟨condition, hparse, hholds⟩ := h
  intro item hitem
  rw [parse_compile] at hparse
  obtain rfl := Except.ok.inj hparse
  rw [← holds_condition]
  exact hholds item hitem

end Feed

namespace Engine

section

variable [Patterns]
variable {arrives : TimelineId → Item → Prop} {e e' : Engine} {t : TimelineId} {m : Move}

-- Storage answers a request by items that the text of the request selects, or by an error.
def Honest (e : Engine) : Move → Prop
  | .answer asker (.ok items) =>
      ∀ t request, e.asks asker = some (t, request) → Selects request.text items
  | _ => True

-- Every item of a timeline is accepted by the filter that the timeline applies.
def Filtered (e : Engine) : Prop :=
  ∀ t, ∀ item ∈ (e.timeline t).buffer.items, (e.timeline t).compiled.accepts item = true

theorem Filtered.changes (h : Filtered e) (hc : Changes arrives e e')
    (harrives : ∀ t item, arrives t item → (e.timeline t).compiled.accepts item = true) :
    Filtered e' := by
  intro t item hitem
  rcases hc.timeline t with hk | hr
  · rw [hk.compiled]
    rcases hk.buffer item hitem with hitem | hitem | hitem
    · exact h t item hitem
    · exact harrives t item hitem
    · exact hitem
  · rcases hr.buffer item hitem with ⟨hitem | hitem, hcompiled⟩ | hitem
    · rw [hcompiled]
      exact h t item hitem
    · rw [hcompiled]
      exact harrives t item hitem
    · exact hitem

-- A new filter is applied under the same generation only if the buffer is emptied.
theorem Filtered.prepared (h : Filtered e) (ht : t < e.timelines.length) :
    Filtered (e.prepared t) := by
  intro t' item hitem
  by_cases ht' : t' = t
  · subst ht'
    rcases timeline_prepared ht with ⟨-, hT⟩ | ⟨-, events, hT⟩
    · rw [hT] at hitem ⊢
      exact h t' item hitem
    · rw [hT] at hitem
      simp at hitem
  · rw [(within_prepared e t).others t' ht'] at hitem ⊢
    exact h t' item hitem

theorem Filtered.prepare (h : Filtered e) (ht : t < e.timelines.length) (o : OperationId)
    (generation : Nat) : Filtered (e.prepare t o generation) := by
  rw [prepare_eq]
  split
  · exact h
  · exact h.prepared ht

theorem Filtered.step (h : Filtered e) (hs : Sound e) (hallows : e.allows .step = true) :
    Filtered (e.after .step) := by
  obtain ⟨frame, rest, hstack, -, hafter⟩ := after_step hallows
  rw [hafter]
  have hpop : Filtered { e with stack := rest } := h
  cases hactivation : frame.isActivation with
  | false => exact hpop.changes (changes_perform Nothing _ hactivation) fun _ _ => False.elim
  | true =>
      obtain ⟨t, q, epoch, o, generation, rfl⟩ := Frame.attach_of_isActivation hactivation
      obtain ⟨-, ht, -⟩ := hs.window t q epoch o generation (by simp [hstack])
      have hc := calm_enrol Nothing { e with stack := rest } t q
      change Filtered (attach _ t q epoch (.activation o generation))
      rw [attach_eq]
      split
      · exact hpop
      · have henrol := hpop.changes hc.changes fun _ _ => False.elim
        exact henrol.prepare (hc.size ▸ ht) o generation

theorem Filtered.addTimeline (h : Filtered e) (config : Config) (storage : StorageId)
    (stream : StreamId) (query : Option QueryId) (hasSink : Bool) :
    Filtered (e.addTimeline config storage stream query hasSink).2 := by
  let new : Timeline :=
    { config, storage, stream, query, hasSink, buffer := .empty config.maxItems }
  have hlast : e.timelines.length < (e.timelines ++ [new]).length := by simp
  intro t item hitem
  change item ∈ ((recompile { e with timelines := e.timelines ++ [new] } _).timeline t).buffer.items
    at hitem
  change ((recompile { e with timelines := e.timelines ++ [new] } _).timeline t).compiled.accepts
    item = true
  by_cases ht : t = e.timelines.length
  · rw [ht, timeline_recompile hlast, timeline_append, if_pos rfl] at hitem
    cases hitem
  · rw [(within_recompile _ _).others t ht, timeline_append, if_neg ht] at hitem ⊢
    exact h t item hitem

theorem Filtered.startActivation (h : Filtered e) (ht : t < e.timelines.length)
    (hasRuntime : Bool) : Filtered (e.startActivation t hasRuntime).2 := by
  have hc := calm_addOperation Nothing e t .activation
  have hadd := h.changes hc.changes fun _ _ => False.elim
  rcases startActivation_cases e t hasRuntime with ⟨-, -, heq⟩ | ⟨-, result, heq⟩
  · have hl := changes_launch Nothing (e.addOperation t .activation).2 t
    have hlaunch := hadd.changes hl fun _ _ => False.elim
    rw [heq]
    unfold launched
    split
    · exact hlaunch
    · exact hlaunch.prepare (hl.size ▸ hc.size ▸ ht) _ _
  · rw [heq]
    exact hadd.changes (changes_close Nothing _ _ fun _ => nofun) fun _ _ => False.elim

theorem Filtered.startPage (h : Filtered e) (before : Option ItemId) (limit : Nat) :
    Filtered (e.startPage t before limit).2 := by
  have hc := calm_addOperation Nothing e t .page
  have hadd := h.changes hc.changes fun _ _ => False.elim
  unfold Engine.startPage
  dsimp only
  split
  · exact hadd.changes (changes_close Nothing _ _ fun _ => nofun) fun _ _ => False.elim
  · exact hadd

-- Storage that is honest sends to a timeline what the filter of the timeline accepts, as long as
-- the timeline wants it.
theorem accepts_of_arrivals (hs : Sound e) (hhonest : e.Honest m) {t : TimelineId} {item : Item}
    (h : e.arrivals m t item) : (e.timeline t).compiled.accepts item = true := by
  cases m with
  | answer asker result =>
      cases result with
      | error cause => exact h.elim
      | ok items =>
          obtain ⟨⟨request, hasks, hg⟩, hitem⟩ := h
          obtain ⟨expr, hexpr⟩ := hs.origin t
          have hselects := hhonest t request hasks
          rw [hs.current asker t request hasks hg, hexpr] at hselects
          rw [hexpr]
          exact hselects.accepts item hitem
  | _ => exact h.elim

theorem Filtered.after (h : Filtered e) (hs : Sound e) (hallows : e.allows m = true)
    (hhonest : e.Honest m) : Filtered (e.after m) := by
  cases hplain : m.isPlain with
  | true =>
      exact h.changes (changes_after hallows hplain) fun _ _ => accepts_of_arrivals hs hhonest
  | false =>
      cases Move.special hplain with
      | step => exact h.step hs hallows
      | leaveObserver =>
          change Filtered e.leaveObserver
          unfold leaveObserver
          split <;> exact h
      | addTimeline config storage stream query hasSink =>
          exact h.addTimeline config storage stream query hasSink
      | startActivation t hasRuntime =>
          exact h.startActivation (isAlive_of_allows hallows) hasRuntime
      | startPage t before limit => exact h.startPage before limit

-- With honest storage, whatever a timeline holds after a run is accepted by the filter that the
-- timeline applies.
theorem buffer_accepted {moves : List Move} (h : ({} : Engine).Follows Honest moves)
    (t : TimelineId) :
    ∀ item ∈ ((({} : Engine).replay moves).timeline t).buffer.items,
      ((({} : Engine).replay moves).timeline t).compiled.accepts item = true := by
  have hinv : Sound (({} : Engine).replay moves) ∧ Filtered (({} : Engine).replay moves) := by
    refine h.induction (P := fun e => Sound e ∧ Filtered e) ⟨sound_init, ?_⟩ ?_
    · intro t item hitem
      cases hitem
    · intro e m ⟨hs, hf⟩ hallows hhonest
      exact ⟨hs.after hallows, hf.after hs hallows hhonest⟩
  exact hinv.2 t

end

-- A timeline of a query is activated, and storage sends its first items.
def firstFill (expr : Expr) (items : List Item) : List Move :=
  [.addQuery expr none, .addChannel 4, .addTimeline {} 0 0 (some 0) true, .startActivation 0 true,
    .step, .step, .answer (.operation 0) (.ok items)]

def picture : Item := { id := 3, author := "ann", hasMedia := true }

def pictures : Expr := .compare .hasMedia (.relation .eq) (.bool true)

theorem buffer_accepted_firstFill :
    ({} : Engine).Follows Honest (firstFill pictures [picture]) ∧
      ((({} : Engine).replay (firstFill pictures [picture])).timeline 0).buffer.items =
        [picture] ∧
      ∀ item ∈ ((({} : Engine).replay (firstFill pictures [picture])).timeline 0).buffer.items,
        ((({} : Engine).replay (firstFill pictures [picture])).timeline 0).compiled.accepts
          item = true := by
  have hselects : Selects pictures.compile.queryText [picture] :=
    ⟨_, parse_compile pictures, by
      intro item hitem
      rw [List.mem_singleton.mp hitem, holds_condition]
      decide⟩
  have hfollows : ({} : Engine).Follows Honest (firstFill pictures [picture]) := by
    refine ⟨by decide, trivial, by decide, trivial, by decide, trivial, by decide, trivial,
      by decide, trivial, by decide, trivial, by decide, ?_, trivial⟩
    intro t request h
    have htext : request.text = pictures.compile.queryText :=
      congrArg (fun asked => (asked.map fun a => a.2.text).getD "") h.symm
    exact htext ▸ hselects
  exact ⟨hfollows, by decide, buffer_accepted hfollows 0⟩

end Engine

end FilteredFeed
