namespace FilteredFeed.Listener

abbrev SubscriptionId := Nat

-- A notification that is being run: its revision and the listeners still to be called.
structure Round (τ : Type) where
  revision : Nat
  waiting : List τ
deriving DecidableEq, Repr

-- The subscriptions to a signal, in the order in which they were made. The registry does not keep
-- its listeners alive.
structure Registry (τ : Type) where
  subscriptions : List (SubscriptionId × τ) := []
  nextId : SubscriptionId := 1
  round : Option (Round τ) := none
  -- the highest revision asked for during the round
  pending : Option Nat := none
deriving DecidableEq, Repr

namespace Registry

variable {τ : Type}

instance : Inhabited (Registry τ) := ⟨{}⟩

def subscribe (r : Registry τ) (listener : τ) : SubscriptionId × Registry τ :=
  (r.nextId,
   { r with
     subscriptions := r.subscriptions ++ [(r.nextId, listener)]
     nextId := r.nextId + 1 })

def unsubscribe (r : Registry τ) (id : SubscriptionId) : Bool × Registry τ :=
  (r.subscriptions.any (·.1 == id),
   { r with subscriptions := r.subscriptions.filter (·.1 ≠ id) })

-- How many subscriptions have a listener that is alive.
def size (alive : τ → Bool) (r : Registry τ) : Nat :=
  (r.subscriptions.filter fun s => alive s.2).length

def isEmpty (alive : τ → Bool) (r : Registry τ) : Bool := r.size alive == 0

-- Starts a round for the listeners that are alive, and forgets the others.
def startRound (alive : τ → Bool) (revision : Nat) (r : Registry τ) : Registry τ :=
  let subscriptions := r.subscriptions.filter fun s => alive s.2
  { r with subscriptions, round := some ⟨revision, subscriptions.map Prod.snd⟩ }

-- Asks for a notification. During a round it is put off to a further one, together with all other
-- requests made meanwhile.
def request (alive : τ → Bool) (revision : Nat) (r : Registry τ) : Registry τ :=
  match r.round with
  | some _ => { r with pending := some (r.pending.elim revision (max revision)) }
  | none => r.startRound alive revision

def isNotifying (r : Registry τ) : Bool := r.round.isSome

-- The listeners that the round is still to call.
def waiting (r : Registry τ) : List τ := r.round.elim [] Round.waiting

-- What comes next in a notification.
inductive Next (τ : Type) where
  | call (listener : τ) (revision : Nat)
  | again (listeners : List τ)
  | done

-- Takes the next listener of the round. After the last one, what was put off starts another
-- round, and without that the notification ends.
def advance (alive : τ → Bool) (r : Registry τ) : Next τ × Registry τ :=
  match r.round with
  | none => (.done, r)
  | some ⟨revision, listener :: waiting⟩ =>
      (.call listener revision, { r with round := some ⟨revision, waiting⟩ })
  | some ⟨_, []⟩ =>
      match r.pending with
      | some revision =>
          let r := { r with pending := none }.startRound alive revision
          (.again r.waiting, r)
      | none => (.done, { r with round := none })

-- Breaks a notification off.
def abandon (r : Registry τ) : Registry τ := { r with round := none, pending := none }

end Registry

end FilteredFeed.Listener
