import FilteredFeed.Command.Settings
import FilteredFeed.Report.Style

namespace FilteredFeed.Report

open FilteredFeed.Command FilteredFeed.Timeline

namespace Settings

-- Objects for scripts have their keys in alphabetical order.
def sorted (members : List (String × Json.Value)) : Json.Value :=
  .object (members.mergeSort fun a b => decide (a.1 ≤ b.1))

def placeMembers (path : String) (isPresent : Bool) : List (String × Json.Value) :=
  [("path", .string path), ("exists", .bool isPresent)]

def placeJson (path : String) (isPresent : Bool) : Json.Value :=
  sorted (placeMembers path isPresent)

def json (path : String) (isPresent : Bool) (settings : Command.Settings) : Json.Value :=
  let settings :=
    sorted [("version", .number settings.version), ("timeline", sorted settings.timeline.members)]
  sorted (("config", settings) :: placeMembers path isPresent)

def lines (config : Config) : List String :=
  ["name: " ++ config.name,
   "max_items: " ++ toString config.maxItems,
   "backfill_count: " ++ toString config.backfillCount,
   "notify_new_arrivals: " ++ toString config.notifyNewArrivals,
   "count_unread: " ++ toString config.countUnread,
   "event_capacity: " ++ toString config.eventCapacity]

def text (colors : Bool) (path : String) (isPresent : Bool) (settings : Command.Settings) : String :=
  let header := Style.paintIf colors .bold (Style.paintIf colors .green "Configuration")
  header ++ "\n\nFile: " ++ path ++ "\nExists: " ++ toString isPresent ++ "\n\n[timeline]\n" ++
    String.join ((lines settings.timeline).map fun line => "  " ++ line ++ "\n") ++
    (if isPresent then "" else "\n(No config file exists; showing defaults.)\n")

end Settings

end FilteredFeed.Report
