import FilteredFeed.Proofs.Engine.Sound

namespace FilteredFeed.Engine

open FilteredFeed.Feed FilteredFeed.Filter FilteredFeed.Listener FilteredFeed.Timeline
open FilteredFeed.Scenario (Asker)

variable [Patterns]
variable {rule : Engine → Move → Prop} {e : Engine} {t : TimelineId} {m : Move}

-- What storage sends to a timeline that still wants it.
def arrivals (e : Engine) (m : Move) (t : TimelineId) (item : Item) : Prop :=
  match m with
  | .answer asker (.ok items) =>
      (∃ request, e.asks asker = some (t, request) ∧
        request.generation = (e.timeline t).generation) ∧ item ∈ items
  | _ => False

-- Most moves leave the stack as it is but for what they put on it, make no timeline, and let no
-- operation begin to wait.
def Move.isPlain : Move → Bool
  | .step | .leaveObserver | .addTimeline .. | .startActivation .. | .startPage .. => false
  | _ => true

inductive Move.Special : Move → Prop where
  | step : Special .step
  | leaveObserver : Special .leaveObserver
  | addTimeline (config : Config) (storage : StorageId) (stream : StreamId)
      (query : Option QueryId) (hasSink : Bool) :
      Special (.addTimeline config storage stream query hasSink)
  | startActivation (t : TimelineId) (hasRuntime : Bool) : Special (.startActivation t hasRuntime)
  | startPage (t : TimelineId) (before : Option ItemId) (limit : Nat) :
      Special (.startPage t before limit)

omit [Patterns] in
theorem Move.special (h : m.isPlain = false) : m.Special := by
  cases m with
  | step => exact .step
  | leaveObserver => exact .leaveObserver
  | addTimeline => exact .addTimeline ..
  | startActivation => exact .startActivation ..
  | startPage => exact .startPage ..
  | addQuery | addChannel | setExpression | setSource | activateQuery | deactivateQuery
  | compile | listen | unsubscribe | releaseObserver | retain | drop | deactivate
  | invalidate | dispose | setQuery | accepts | takeUnread | offer | publish | closeStream
  | answer | cancel | wake | nextTask | turn => cases h

theorem isAlive_of_allows {b : Bool} (h : (b && e.isAlive (.timeline t)) = true) :
    t < e.timelines.length :=
  isAlive_lt (Bool.and_eq_true_iff.mp h).2

theorem stack_of_allows {b : Bool} (h : (e.stack.isEmpty && b) = true) : e.stack = [] :=
  List.isEmpty_iff.mp (Bool.and_eq_true_iff.mp h).1

theorem changes_after (hallows : e.allows m = true) (hplain : m.isPlain = true) :
    Changes (e.arrivals m) e (e.after m) := by
  cases m with
  | step | leaveObserver | addTimeline | startActivation | startPage => cases hplain
  | addQuery expr source => exact (calm_addQuery _ e expr source).changes
  | addChannel capacity =>
      have hb : Background e (e.addChannel capacity).2 := ⟨rfl, rfl, rfl, rfl, rfl, rfl⟩
      exact hb.calm.changes
  | setExpression q expr => exact (calm_setExpression _ e q expr).changes
  | setSource q text => exact (calm_setSource _ e q text).changes
  | activateQuery q => exact (calm_push e rfl).changes
  | deactivateQuery q => exact (calm_push e rfl).changes
  | compile q => exact (calm_compile e q).changes
  | listen q => exact (calm_listen _ e q).changes
  | unsubscribe q id => exact (calm_dropSubscription e (some (q, id))).changes
  | releaseObserver o => exact changes_release _ e (.observer o)
  | retain t => exact (calm_retain e (.timeline t)).changes
  | drop t => exact changes_release _ e (.timeline t)
  | deactivate t => exact (calm_hold e t).trans_changes (changes_deactivate ..)
  | invalidate t => exact (calm_hold e t).trans_changes (changes_invalidate ..)
  | dispose t => exact (calm_hold e t).trans_changes (changes_dispose ..)
  | setQuery t query => exact (calm_hold e t).trans_changes (changes_setQuery ..)
  | accepts t item => exact (calm_currentFilter _ e t).changes
  | takeUnread t => exact (calm_modifyTimeline e ⟨rfl, rfl, fun _ h => .inl h⟩).changes
  | offer t item => exact changes_offer ..
  | publish s item => exact (background_publish e s item).calm.changes
  | closeStream s => exact (background_closeStream e s).calm.changes
  | answer asker result =>
      have harrives : ∀ t r items, e.asks asker = some (t, r) → result = .ok items →
          r.generation = (e.timeline t).generation →
            ∀ item ∈ items, e.arrivals (.answer asker result) t item := by
        rintro t r items hasks rfl hg item hitem
        exact ⟨⟨r, hasks, hg⟩, hitem⟩
      cases asker with
      | operation o => exact changes_complete e o result harrives
      | task k => exact (calm_completeTask e k result harrives).changes
  | cancel o => exact changes_cancel ..
  | wake k => exact (background_wake e k).calm.changes
  | nextTask => exact (background_nextTask e).calm.changes
  | turn k => exact changes_turn _ k (List.isEmpty_iff.mp hallows)

-- What one move keeps.
theorem Sound.after (h : Sound e) (hallows : e.allows m = true) : Sound (e.after m) := by
  cases hplain : m.isPlain with
  | true => exact h.changes (changes_after hallows hplain)
  | false =>
      cases Move.special hplain with
      | step => exact h.step hallows
      | leaveObserver => exact h.leaveObserver
      | addTimeline config storage stream query hasSink =>
          exact h.addTimeline config storage stream query hasSink
      | startActivation t hasRuntime =>
          exact h.startActivation (stack_of_allows hallows) (isAlive_of_allows hallows) hasRuntime
      | startPage t before limit =>
          exact h.startPage (stack_of_allows hallows) (isAlive_of_allows hallows) before limit

-- What every run keeps.
theorem Follows.sound {moves : List Move} (h : e.Follows rule moves) (hs : Sound e) :
    Sound (e.replay moves) :=
  h.induction hs fun _ _ hs hallows _ => hs.after hallows

end FilteredFeed.Engine
