import FilteredFeed.Listener.Registry
import FilteredFeed.Listener.Script

namespace FilteredFeed.Listener

-- One registry, and listeners that act on it when they are called.

-- The revision of a notification, as it is or on top of that of the call in which it is asked for.
inductive RevisionChoice where
  | exactly (revision : Nat)
  | plus (n : Nat)
deriving DecidableEq, Repr

def RevisionChoice.value (call : Nat) : RevisionChoice → Nat
  | .exactly revision => revision
  | .plus n => call + n

inductive Action where
  -- makes a listener, in place of the one of that name
  | listener (name : String)
  | dropListener (name : String)
  -- keeps the subscription under the name of a guard
  | subscribe (listener guard : String)
  | dropGuard (guard : String)
  | unsubscribe (id : SubscriptionId)
  | dropRegistry
  | notify (choice : RevisionChoice)
  -- breaks off the notification in which it is done
  | fail
deriving DecidableEq, Repr

inductive Reply where
  | nothing
  | flag (b : Bool)
  | subscription (id : SubscriptionId)
  | notified
  -- a listener broke the notification off
  | broken
  | noRegistry
deriving DecidableEq, Repr

inductive LogEntry where
  | called (name : String) (revision : Nat)
  | acted (action : Action) (reply : Reply)
deriving DecidableEq, Repr

abbrev ListenerId := Nat

structure ScriptedListener where
  name : String
  -- what is left for the calls to come
  script : Script Action

structure Session where
  -- all listeners ever made
  listeners : List ScriptedListener := []
  -- the listeners that are kept
  names : List (String × ListenerId) := []
  guards : List (String × SubscriptionId) := []
  registry : Registry ListenerId := {}
  -- whether the registry is kept; a notification that runs goes on without that
  hasRegistry : Bool := true
  -- newest first
  log : List LogEntry := []

namespace Session

def isAlive (s : Session) (l : ListenerId) : Bool := s.names.any (·.2 == l)

def record (s : Session) (entry : LogEntry) : Session := { s with log := entry :: s.log }

def dropGuard (s : Session) (guard : String) : Bool × Session :=
  match s.guards.lookup guard with
  | some id =>
      (true,
       { s with
         guards := s.guards.filter (·.1 ≠ guard)
         registry := (s.registry.unsubscribe id).2 })
  | none => (false, s)

-- The guard that had the name goes after the subscription was made.
def subscribe (s : Session) (l : ListenerId) (guard : String) : SubscriptionId × Session :=
  let (id, registry) := s.registry.subscribe l
  let s := (({ s with registry } : Session).dropGuard guard).2
  (id, { s with guards := (guard, id) :: s.guards })

def makeListener (s : Session) (name : String) (script : Script Action) : Session :=
  { s with
    listeners := s.listeners ++ [⟨name, script⟩]
    names := (name, s.listeners.length) :: s.names.filter (·.1 ≠ name) }

-- Does an action inside a call, in which no further notification is run.
def perform (s : Session) (call : Nat) (a : Scripted Action) : Reply × Session :=
  match a.action with
  | .listener name => (.nothing, s.makeListener name a.script)
  | .dropListener name =>
      (.flag (s.names.any (·.1 == name)), { s with names := s.names.filter (·.1 ≠ name) })
  | .subscribe listener guard =>
      if !s.hasRegistry then (.noRegistry, s)
      else
        match s.names.lookup listener with
        | some l =>
            let (id, s) := s.subscribe l guard
            (.subscription id, s)
        | none => (.nothing, s)
  | .dropGuard guard =>
      let (existed, s) := s.dropGuard guard
      (.flag existed, s)
  | .unsubscribe id =>
      if !s.hasRegistry then (.noRegistry, s)
      else
        let (existed, registry) := s.registry.unsubscribe id
        (.flag existed, { s with registry })
  | .dropRegistry => (.flag s.hasRegistry, { s with hasRegistry := false })
  | .notify choice =>
      if !s.hasRegistry then (.noRegistry, s)
      else
        (.notified, { s with registry := s.registry.request s.isAlive (choice.value call) })
  | .fail => (.broken, s)

-- Does the actions of a call. The result says whether all of them were done.
def performAll (revision : Nat) : List (Scripted Action) → Session → Bool × Session
  | [], s => (true, s)
  | a :: rest, s =>
      if a.action = .fail then (false, s)
      else
        let (reply, s) := s.perform revision a
        performAll revision rest (s.record (.acted a.action reply))

-- Calls a listener, which follows its script.
def call (s : Session) (l : ListenerId) (revision : Nat) : Bool × Session :=
  match s.listeners[l]? with
  | none => (true, s)
  | some listener =>
      let s := s.record (.called listener.name revision)
      let s := { s with listeners := s.listeners.modify l fun l => { l with script := l.script.tail } }
      performAll revision (listener.script.headD []) s

-- Runs the rounds of a notification.
def runRounds : Nat → Session → Bool × Session
  | 0, s => (true, s)
  | steps + 1, s =>
      let (next, registry) := s.registry.advance s.isAlive
      let s := { s with registry }
      match next with
      | .done => (true, s)
      | .again _ => runRounds steps s
      | .call l revision =>
          let (completed, s) := s.call l revision
          if completed then runRounds steps s
          else (false, { s with registry := s.registry.abandon })

def weight (s : Session) : Nat :=
  s.listeners.foldr (fun l n => Scripted.weightOfScript l.script + n) 0

-- A bound for the steps of a notification: every round but the first was asked for by an action,
-- and every listener of a round was subscribed before or by an action.
def cost (s : Session) : Nat :=
  (s.weight + 1) * (s.registry.subscriptions.length + s.weight + 1) + 1

-- A notification that no other one surrounds.
def notify (s : Session) (revision : Nat) : Reply × Session :=
  let s := { s with registry := s.registry.request s.isAlive revision }
  let (completed, s) := runRounds s.cost s
  (if completed then .notified else .broken, s)

-- Does an action outside of all calls.
def step (s : Session) (a : Scripted Action) : Reply × Session :=
  match a.action with
  | .notify choice => if s.hasRegistry then s.notify (choice.value 0) else (.noRegistry, s)
  | _ => s.perform 0 a

-- How many listeners there are, as long as the registry is kept.
def size? (s : Session) : Option Nat :=
  if s.hasRegistry then some (s.registry.size s.isAlive) else none

end Session

end FilteredFeed.Listener
