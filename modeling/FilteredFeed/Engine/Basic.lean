import FilteredFeed.Feed.Channel
import FilteredFeed.Query.Basic
import FilteredFeed.Timeline.Basic

namespace FilteredFeed

open FilteredFeed.Feed FilteredFeed.Filter FilteredFeed.Listener
open FilteredFeed.Timeline

variable [Patterns]

namespace Engine

abbrev TimelineId := Nat

abbrev ObserverId := Nat

abbrev OperationId := Nat

-- Who listens to a query: a timeline, or somebody outside.
inductive Target where
  | timeline (id : TimelineId)
  | observer (id : ObserverId)
deriving DecidableEq, Repr

-- What is asked of storage, and the generation of the timeline that asked.
structure FetchRequest where
  text : String
  before : Option ItemId
  limit : Nat
  generation : Nat
deriving DecidableEq, Repr

-- Background work.
inductive Job where
  -- takes live items from a stream to a timeline
  | pump (timeline : TimelineId) (stream : StreamId)
  -- fills a buffer again
  | refetch (timeline : TimelineId) (request : FetchRequest)
deriving DecidableEq, Repr

structure Task where
  job : Job
  -- whether the storage request was made
  started : Bool := false
  aborted : Bool := false
  finished : Bool := false
deriving DecidableEq, Repr

-- What an operation that had to wait for storage came to.
inductive Outcome where
  | activated
  | merged (delta : Delta)
  | discarded
deriving DecidableEq, Repr

inductive OperationKind where
  | activation
  | page
deriving DecidableEq, Repr

inductive Status where
  | running
  -- suspended until storage answers
  | waiting (request : FetchRequest)
  | done (result : Except TimelineError Outcome)
  -- dropped before it came to its end
  | cancelled

-- An activation or a fetch. It holds its timeline until it ends.
structure Operation where
  timeline : TimelineId
  kind : OperationKind
  status : Status

-- Why a timeline attaches itself to a query.
inductive Purpose where
  | swap
  | activation (operation : OperationId) (generation : Nat)
deriving DecidableEq, Repr

-- What is left to be done by the calls that are running, in small steps. Between two steps no
-- lock is held, and an `observer` frame has handed control to somebody outside.
inductive Frame where
  | activate (query : QueryId)
  | deactivate (query : QueryId)
  | announce (query : QueryId) (revision : Nat)
  -- runs the rounds of a notification
  | rounds (query : QueryId)
  | call (target : Target) (revision : Nat)
  | observer (id : ObserverId) (revision : Nat)
  | release (target : Target)
  -- the second half of an attachment, after the query was activated
  | attach (timeline : TimelineId) (query : QueryId) (epoch : Nat) (purpose : Purpose)
  | emit (timeline : TimelineId) (delta : Delta)
  | finish (operation : OperationId) (result : Except TimelineError Outcome)

end Engine

open Engine

-- All queries, streams and timelines, the background work, and the calls that are running. Things
-- are named by their place in the order in which they were made.
structure Engine where
  queries : List (Query Target) := []
  channels : List Channel := []
  timelines : List Timeline := []
  -- how many hold each observer
  observers : List Nat := []
  tasks : List Task := []
  -- tasks that can go on, in the order in which they became ready
  ready : List TaskId := []
  operations : List Operation := []
  -- innermost first
  stack : List Frame := []

namespace Engine

def query (e : Engine) (q : QueryId) : Query Target := e.queries[q]?.getD default

def timeline (e : Engine) (t : TimelineId) : Timeline := e.timelines[t]?.getD default

def channel (e : Engine) (s : StreamId) : Channel := e.channels[s]?.getD default

def modifyQuery (e : Engine) (q : QueryId) (f : Query Target → Query Target) : Engine :=
  { e with queries := e.queries.modify q f }

def modifyTimeline (e : Engine) (t : TimelineId) (f : Timeline → Timeline) : Engine :=
  { e with timelines := e.timelines.modify t f }

def modifyChannel (e : Engine) (s : StreamId) (f : Channel → Channel) : Engine :=
  { e with channels := e.channels.modify s f }

def modifyTask (e : Engine) (k : TaskId) (f : Task → Task) : Engine :=
  { e with tasks := e.tasks.modify k f }

def setStatus (e : Engine) (o : OperationId) (status : Status) : Engine :=
  { e with operations := e.operations.modify o fun op => { op with status } }

def push (e : Engine) (frames : List Frame) : Engine := { e with stack := frames ++ e.stack }

-- Whether anybody holds a listener.
def isAlive (e : Engine) : Target → Bool
  | .timeline t => e.timelines[t]?.any fun timeline => decide (0 < timeline.holders)
  | .observer o => e.observers[o]?.any fun holders => decide (0 < holders)

def retain (e : Engine) : Target → Engine
  | .timeline t => e.modifyTimeline t fun timeline => { timeline with holders := timeline.holders + 1 }
  | .observer o => { e with observers := e.observers.modify o (· + 1) }

def listenerCount (e : Engine) (q : QueryId) : Nat := (e.query q).registry.size e.isAlive

-- Puts a task among those that can go on, unless it is there.
def wake (e : Engine) (k : TaskId) : Engine :=
  if e.ready.contains k || e.tasks[k]?.all Task.finished then e
  else { e with ready := e.ready ++ [k] }

def spawn (e : Engine) (job : Job) : TaskId × Engine :=
  let k := e.tasks.length
  (k, { e with tasks := e.tasks ++ [{ job }], ready := e.ready ++ [k] })

-- A task that is aborted does nothing more. It goes away when its turn comes.
def abort (e : Engine) (k : TaskId) : Engine :=
  (e.modifyTask k fun task => { task with aborted := true }).wake k

def abort? (e : Engine) : Option TaskId → Engine
  | some k => e.abort k
  | none => e

-- Ends a task; the receiver of a pump goes with it.
def finishTask (e : Engine) (k : TaskId) : Engine :=
  let e :=
    match e.tasks[k]? with
    | some ⟨.pump _ s, _, _, _⟩ => e.modifyChannel s (·.unsubscribe k)
    | _ => e
  e.modifyTask k fun task => { task with finished := true }

end Engine

end FilteredFeed
