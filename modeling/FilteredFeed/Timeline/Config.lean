import FilteredFeed.Json.Reader
import FilteredFeed.Json.Value

namespace FilteredFeed.Timeline

open FilteredFeed.Json (Reader)

-- The settings of one timeline.
structure Config where
  -- what notifications call it
  name : String := "timeline"
  -- how many items it keeps
  maxItems : Nat := 1000
  -- how many items a backfill asks for
  backfillCount : Nat := 200
  notifyNewArrivals : Bool := false
  countUnread : Bool := false
  -- how many events a slow subscriber may fall behind
  eventCapacity : Nat := 64
deriving DecidableEq, Repr, Inhabited

namespace Config

private def count : Reader Nat := Json.natural (UInt64.size - 1)

def fields : List (Json.Field Config) :=
  [.of "name" false Json.string fun config name => { config with name },
   .of "max_items" false count fun config maxItems => { config with maxItems },
   .of "backfill_count" false count fun config backfillCount => { config with backfillCount },
   .of "notify_new_arrivals" false Json.bool
     fun config notifyNewArrivals => { config with notifyNewArrivals },
   .of "count_unread" false Json.bool fun config countUnread => { config with countUnread },
   .of "event_capacity" false count fun config eventCapacity => { config with eventCapacity }]

def ofJson (text : String) : Except Json.ReadError Config :=
  Json.parse (Json.Record.read fields {}) text

def members (config : Config) : List (String × Json.Value) :=
  [("name", .string config.name),
   ("max_items", .number config.maxItems),
   ("backfill_count", .number config.backfillCount),
   ("notify_new_arrivals", .bool config.notifyNewArrivals),
   ("count_unread", .bool config.countUnread),
   ("event_capacity", .number config.eventCapacity)]

def toJson (config : Config) : Json.Value := .object config.members

end Config

end FilteredFeed.Timeline
