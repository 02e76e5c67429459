import FilteredFeed.Feed.Item

namespace FilteredFeed.Feed

-- The least power of two that is not less, by doubling from one.
def roundUp (n : Nat) : Nat := go n 1
where
  go : Nat → Nat → Nat
    | 0, power => power
    | room + 1, power => if n ≤ power then power else go room (2 * power)

-- A channel keeps the last `capacity` items for all receivers. Receivers know how many items were
-- sent before those they are to get, and fall behind if that is too few.
structure Channel where
  capacity : Nat
  -- newest first
  items : List Item := []
  -- how many items were sent
  sent : Nat := 0
  closed : Bool := false
  -- receivers by key, with their positions, and those that wait in the order in which they began
  receivers : List (Nat × Nat) := []
  waiting : List Nat := []
deriving DecidableEq, Repr, Inhabited

-- What a receiver gets.
inductive Received where
  | item (item : Item)
  | lagged (missed : Nat)
  | closed
  | nothing
deriving DecidableEq, Repr

namespace Channel

def ofCapacity (n : Nat) : Channel := { capacity := roundUp (max n 1) }

-- What a word can count to, halved.
def maxCapacity : Nat := UInt64.size / 2 - 1

-- A channel has all its places from the start. Whoever asks for too many, or for more than the
-- `room` there is in memory, does not get one, and the program breaks off.
def opens (room n : Nat) : Bool := n ≤ maxCapacity && (ofCapacity n).capacity ≤ room

def subscribe (c : Channel) (key : Nat) : Channel :=
  { c with receivers := c.receivers ++ [(key, c.sent)] }

def unsubscribe (c : Channel) (key : Nat) : Channel :=
  { c with
    receivers := c.receivers.filter (·.1 ≠ key)
    waiting := c.waiting.filter (· ≠ key) }

def receiverCount (c : Channel) : Nat := c.receivers.length

-- Sends an item to all receivers, and wakes those that wait. Without receivers it is lost.
def send (c : Channel) (item : Item) : Channel :=
  if c.receivers.isEmpty then c
  else
    { c with
      items := (item :: c.items).take c.capacity
      sent := c.sent + 1
      waiting := [] }

def close (c : Channel) : Channel := { c with closed := true, waiting := [] }

def moveTo (c : Channel) (key position : Nat) : Channel :=
  { c with receivers := c.receivers.map fun r => if r.1 = key then (key, position) else r }

-- How many items were sent that a receiver has not got.
def backlog (c : Channel) (key : Nat) : Nat := c.sent - (c.receivers.lookup key).getD c.sent

-- The next thing for a receiver. One that has fallen behind goes on with the oldest item kept, and
-- is told how many it missed. One for which there is nothing waits.
def receive (c : Channel) (key : Nat) : Received × Channel :=
  match c.receivers.lookup key with
  | none => (.closed, c)
  | some position =>
      let oldest := c.sent - c.items.length
      if position < oldest then (.lagged (oldest - position), c.moveTo key oldest)
      else
        match if position < c.sent then c.items[c.sent - 1 - position]? else none with
        | some item => (.item item, c.moveTo key (position + 1))
        | none =>
            if c.closed then (.closed, c)
            else (.nothing, { c with waiting := c.waiting ++ [key] })

end Channel

end FilteredFeed.Feed
