import FilteredFeed.Engine.Tasks
import FilteredFeed.Listener.Script
import FilteredFeed.Scenario.GatedStorage

namespace FilteredFeed

open FilteredFeed.Engine FilteredFeed.Feed FilteredFeed.Filter FilteredFeed.Grammar
open FilteredFeed.Listener FilteredFeed.Timeline

variable [Patterns]

namespace Scenario

-- What a query is made from.
inductive QuerySource where
  | text (t : String)
  | expr (e : Expr)
  | nothing
deriving DecidableEq, Repr

-- What can be done with a query.
inductive QueryAction where
  | setSource (text : String)
  | setExpression (expr : Expr)
  | activate
  | deactivate
  | compile
  | describe
deriving Repr

-- What can be done with a storage.
inductive StorageAction where
  | insert (items : List Item)
  | ask (text : String) (before : Option ItemId) (limit : Option Nat)
  | failWith (failure : Option StorageError)
  | closeGate (closed : Bool)
  | release
deriving Repr

-- What can be done with a stream.
inductive StreamAction where
  | publish (items : List Item)
  | close
deriving Repr

-- What can be done with a timeline that needs no answer of its storage. Queries go by their names.
inductive TimelineAction where
  | deactivate
  | invalidate
  | dispose
  | setQuery (query : Option String)
  | arrive (item : Item)
  | accepts (item : Item)
  | takeUnread
  | texts
  | hasQuery (query : Option String)
deriving Repr

-- What can be done in a scenario. Things go by their names.
inductive Action where
  | makeStorage (name : String) (items : List Item)
  | makeStream (name : String) (capacity : Nat)
  | makeQuery (name : String) (source : QuerySource)
  | makeTimeline (name storage stream : String) (query : Option String) (config : Config)
      (hasSink : Bool)
  | cloneQuery (name of : String)
  | sameQuery (left right : String)
  | dropQuery (name : String)
  | dropTimeline (name : String)
  -- makes an observer of a query, which follows the script of the action
  | listen (name query : String)
  | unlisten (name : String)
  | query (name : String) (action : QueryAction)
  | storage (name : String) (action : StorageAction)
  | stream (name : String) (action : StreamAction)
  | timeline (name : String) (action : TimelineAction)
  -- goes on until storage has answered
  | activate (timeline : String) (hasRuntime : Bool)
  | fetch (timeline : String) (before : Option ItemId) (limit : Nat)
  -- keeps an operation that has to wait under a name
  | startActivation (name timeline : String)
  | startFetch (name timeline : String) (before : Option ItemId) (limit : Nat)
  | poll (name : String)
  | cancel (name : String)
  -- lets background work go on until none can
  | settle
deriving Repr

inductive Reply where
  | nothing
  | ok
  | flag (b : Bool)
  | count (n : Nat)
  | name (s : String)
  | subscription (id : SubscriptionId)
  -- an operation waits for storage
  | pending
  | outcome (result : Except TimelineError Outcome)
  | readError (e : ReadError)
  | storageError (e : StorageError)
  | items (items : List Item)
  | compiled (filter : CompiledFilter) (revision : Nat)
  | query (expr : Expr) (source : Option String)
  -- how many receivers every item had
  | receivers (counts : List (Option Nat))
  -- how many receivers every stream has
  | subscribers (counts : List (String × Option Nat))
  | unknownName (name : String)

-- Things by name.
abbrev Table (α : Type) := List (String × α)

namespace Table

variable {α : Type}

def erase (table : Table α) (name : String) : Table α := table.filter (·.1 ≠ name)

def insert (table : Table α) (name : String) (value : α) : Table α := (name, value) :: table.erase name

end Table

-- An observer that follows a script.
structure ScriptedObserver where
  name : String
  -- what is left for the calls to come
  script : Script Action

structure Listening where
  observer : ObserverId
  query : QueryId
  subscription : SubscriptionId

-- A call of an observer, with what the actions in it came to.
structure CallRecord where
  name : String
  revision : Nat
  replies : List Reply := []

-- A call of an observer that has not ended.
structure RunningCall where
  -- the place of its record
  record : Nat
  rest : List (Scripted Action)
  -- how much the engine has on its stack when the call has control
  depth : Nat

end Scenario

open Scenario

structure Scenario where
  engine : Engine := {}
  storages : List GatedStorage := []
  -- by the observers of the engine
  observers : List ScriptedObserver := []
  -- how much of the events and notifications of every timeline was shown
  shown : List (Nat × Nat) := []
  storageNames : Table StorageId := []
  streamNames : Table StreamId := []
  queryNames : Table QueryId := []
  timelineNames : Table TimelineId := []
  listenerNames : Table Listening := []
  operationNames : Table OperationId := []
  -- in the order in which the calls began
  records : List CallRecord := []
  -- innermost first
  calls : List RunningCall := []

end FilteredFeed
