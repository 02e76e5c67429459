import FilteredFeed.Engine.Tasks
import FilteredFeed.Scenario.GatedStorage

namespace FilteredFeed.Engine

open FilteredFeed.Feed FilteredFeed.Filter FilteredFeed.Listener FilteredFeed.Timeline
open FilteredFeed.Scenario (Asker)

variable [Patterns]

-- What can happen to an engine, in pieces between which something else can happen.
inductive Move where
  -- the calls that are running go on
  | step
  | leaveObserver
  | addQuery (expr : Expr) (source : Option String)
  | addChannel (capacity : Nat)
  | addTimeline (config : Config) (storage : StorageId) (stream : StreamId)
      (query : Option QueryId) (hasSink : Bool)
  | setExpression (q : QueryId) (expr : Expr)
  | setSource (q : QueryId) (text : String)
  | activateQuery (q : QueryId)
  | deactivateQuery (q : QueryId)
  | compile (q : QueryId)
  | listen (q : QueryId)
  -- an observer gives up a subscription
  | unsubscribe (q : QueryId) (id : SubscriptionId)
  | releaseObserver (o : ObserverId)
  -- somebody more holds a timeline
  | retain (t : TimelineId)
  | drop (t : TimelineId)
  | deactivate (t : TimelineId)
  | invalidate (t : TimelineId)
  | dispose (t : TimelineId)
  | setQuery (t : TimelineId) (query : Option QueryId)
  | accepts (t : TimelineId) (item : Item)
  | takeUnread (t : TimelineId)
  | offer (t : TimelineId) (item : Item)
  | publish (s : StreamId) (item : Item)
  | closeStream (s : StreamId)
  | startActivation (t : TimelineId) (hasRuntime : Bool)
  | startPage (t : TimelineId) (before : Option ItemId) (limit : Nat)
  -- storage answers
  | answer (asker : Asker) (result : Except StorageError (List Item))
  | cancel (o : OperationId)
  | wake (k : TaskId)
  | nextTask
  -- a task goes on, a pump by one item
  | turn (k : TaskId)

def answer (e : Engine) (result : Except StorageError (List Item)) : Asker → Engine
  | .operation o => e.complete o result
  | .task k => e.completeTask k result

def turn (e : Engine) (k : TaskId) : Engine :=
  match e.tasks[k]? with
  | some ⟨.pump t s, _, false, false⟩ => runPump k t s 1 e
  | _ => (e.poll k).2

def after (e : Engine) : Move → Engine
  | .step => e.step.getD e
  | .leaveObserver => e.leaveObserver
  | .addQuery expr source => (e.addQuery { expr, source }).2
  | .addChannel capacity => (e.addChannel capacity).2
  | .addTimeline config storage stream query hasSink =>
      (e.addTimeline config storage stream query hasSink).2
  | .setExpression q expr => e.setExpression q expr
  | .setSource q text => (e.setSource q text).2
  | .activateQuery q => e.activateQuery q
  | .deactivateQuery q => e.deactivateQuery q
  | .compile q => (e.compile q).2.2
  | .listen q => (e.listen q).2.2
  | .unsubscribe q id => e.dropSubscription (some (q, id))
  | .releaseObserver o => e.release (.observer o)
  | .retain t => e.retain (.timeline t)
  | .drop t => e.drop t
  | .deactivate t => (e.hold t).deactivate t
  | .invalidate t => (e.hold t).invalidate t
  | .dispose t => (e.hold t).dispose t
  | .setQuery t query => ((e.hold t).setQuery t query).2
  | .accepts t item => (e.accepts t item).2
  | .takeUnread t => (e.takeUnread t).2
  | .offer t item => (e.offer t item).2
  | .publish s item => (e.publish s item).2
  | .closeStream s => e.closeStream s
  | .startActivation t hasRuntime => (e.startActivation t hasRuntime).2
  | .startPage t before limit => (e.startPage t before limit).2
  | .answer asker result => e.answer result asker
  | .cancel o => e.cancel o
  | .wake k => e.wake k
  | .nextTask => (e.nextTask.map Prod.snd).getD e
  | .turn k => e.turn k

def Frame.isObserver : Frame → Bool
  | .observer _ _ => true
  | _ => false

def Target.isObserver : Target → Bool
  | .observer _ => true
  | .timeline _ => false

-- Whether somebody outside has control: an observer that was called, or, if no call is running,
-- anybody.
def isOpen (e : Engine) : Bool := e.stack.head?.all Frame.isObserver

-- Whether an operation or a task waits for storage.
def awaits (e : Engine) : Asker → Bool
  | .operation o =>
      match e.operations[o]? with
      | some ⟨_, _, .waiting _⟩ => true
      | _ => false
  | .task k =>
      match e.tasks[k]? with
      | some ⟨.refetch _ _, true, false, false⟩ => true
      | _ => false

-- Whether a move can happen. Observers do whatever gives control back at once. Only a timeline
-- that somebody holds can be used, and the subscription of a timeline is its own.
def allows (e : Engine) : Move → Bool
  | .step => e.step.isSome
  | .leaveObserver => e.stack.head?.any Frame.isObserver
  | .addQuery _ _ | .addChannel _ | .releaseObserver _ | .publish _ _ | .closeStream _
  | .wake _ => e.isOpen
  | .addTimeline _ _ stream query _ =>
      e.isOpen && decide (stream < e.channels.length) &&
        query.all fun q => decide (q < e.queries.length)
  | .setExpression q _ | .setSource q _ | .activateQuery q | .deactivateQuery q | .compile q
  | .listen q => e.isOpen && decide (q < e.queries.length)
  | .unsubscribe q id =>
      e.isOpen && (e.query q).registry.subscriptions.all fun s => s.1 != id || s.2.isObserver
  | .retain t | .drop t | .deactivate t | .invalidate t | .dispose t | .accepts t _
  | .takeUnread t | .offer t _ => e.isOpen && e.isAlive (.timeline t)
  | .setQuery t query =>
      e.isOpen && e.isAlive (.timeline t) && query.all fun q => decide (q < e.queries.length)
  | .startActivation t _ | .startPage t _ _ => e.stack.isEmpty && e.isAlive (.timeline t)
  | .answer asker _ => e.stack.isEmpty && e.awaits asker
  | .cancel o => e.isOpen && e.awaits (.operation o)
  | .nextTask | .turn _ => e.stack.isEmpty

-- An engine after a run.
def replay (e : Engine) (moves : List Move) : Engine := moves.foldl after e

-- Every move of a run can happen, and keeps to a rule.
def Follows (rule : Engine → Move → Prop) (e : Engine) : List Move → Prop
  | [] => True
  | m :: moves => e.allows m = true ∧ rule e m ∧ (e.after m).Follows rule moves

-- Every move of a run can happen.
abbrev Runs (e : Engine) (moves : List Move) : Prop := e.Follows (fun _ _ => True) moves

instance decidableRuns : (e : Engine) → (moves : List Move) → Decidable (e.Runs moves)
  | _, [] => .isTrue trivial
  | e, m :: moves =>
      have := decidableRuns (e.after m) moves
      inferInstanceAs (Decidable (e.allows m = true ∧ True ∧ (e.after m).Runs moves))

variable {rule : Engine → Move → Prop} {e : Engine}

-- A step is what the first call of the stack does, which is not an observer that has control.
theorem after_step (hallows : e.allows .step = true) :
    ∃ frame rest, e.stack = frame :: rest ∧ frame.isObserver = false ∧
      e.after .step = ({ e with stack := rest } : Engine).perform frame := by
  unfold allows step at hallows
  unfold after step
  cases hs : e.stack with
  | nil => simp [hs] at hallows
  | cons frame rest =>
      cases frame with
      | observer o revision => simp [hs] at hallows
      | activate _ | deactivate _ | announce _ _ | rounds _ | call _ _ | release _ | attach _ _ _ _
      | emit _ _ | finish _ _ => exact ⟨_, rest, rfl, rfl, rfl⟩

-- Who has control is an observer, unless no call is running.
theorem isOpen_of_allows {m : Move} {f : Frame} {rest : List Frame} (hallows : e.allows m = true)
    (hm : m ≠ .step) (hs : e.stack = f :: rest) : f.isObserver = true := by
  have hopen {b : Bool} (h : (e.isOpen && b) = true) : f.isObserver = true := by
    have h := (Bool.and_eq_true_iff.mp h).1
    simpa [isOpen, hs] using h
  have hempty {b : Bool} (h : (e.stack.isEmpty && b) = true) : f.isObserver = true := by
    simp [hs] at h
  cases m with
  | step => exact absurd rfl hm
  | leaveObserver => simpa [allows, hs] using hallows
  | addQuery | addChannel | releaseObserver | publish | closeStream | wake =>
      have h : e.isOpen = true := hallows
      simpa [isOpen, hs] using h
  | addTimeline | setQuery => exact hopen (Bool.and_eq_true_iff.mp hallows).1
  | nextTask | turn =>
      have h : e.stack.isEmpty = true := hallows
      simp [hs] at h
  | startActivation | startPage | answer => exact hempty hallows
  | setExpression | setSource | activateQuery | deactivateQuery | compile | listen | unsubscribe
  | retain | drop | deactivate | invalidate | dispose | accepts | takeUnread | offer | cancel =>
      exact hopen hallows

@[simp] theorem replay_nil (e : Engine) : e.replay [] = e := rfl

@[simp] theorem replay_cons (e : Engine) (m : Move) (moves : List Move) :
    e.replay (m :: moves) = (e.after m).replay moves := rfl

theorem replay_append (e : Engine) (moves more : List Move) :
    e.replay (moves ++ more) = (e.replay moves).replay more := List.foldl_append

theorem replay_concat (e : Engine) (moves : List Move) (m : Move) :
    e.replay (moves ++ [m]) = (e.replay moves).after m := by
  rw [replay_append]
  rfl

theorem follows_append {moves more : List Move} :
    e.Follows rule (moves ++ more) ↔ e.Follows rule moves ∧ (e.replay moves).Follows rule more := by
  induction moves generalizing e with
  | nil => simp [Follows]
  | cons m moves ih => simp only [List.cons_append, Follows, ih, replay_cons, and_assoc]

theorem Follows.runs {moves : List Move} (h : e.Follows rule moves) : e.Runs moves := by
  induction moves generalizing e with
  | nil => exact trivial
  | cons m moves ih => exact ⟨h.1, trivial, ih h.2.2⟩

-- What holds at the start and is kept by every move holds after every run.
theorem Follows.induction {P : Engine → Prop} (h0 : P e)
    (hmove : ∀ e m, P e → e.allows m = true → rule e m → P (e.after m))
    {moves : List Move} (h : e.Follows rule moves) : P (e.replay moves) := by
  induction moves generalizing e with
  | nil => exact h0
  | cons m moves ih => exact ih (hmove e m h0 h.1 h.2.1) h.2.2

end FilteredFeed.Engine
