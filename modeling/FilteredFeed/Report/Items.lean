import FilteredFeed.Feed.ItemJson
import FilteredFeed.Report.Style

namespace FilteredFeed.Report

open FilteredFeed.Feed

-- One line of a table. Padding takes the style of its column.
def row (id author media text : String) (paintId paintAuthor : String → String) : String :=
  paintId (padRight 10 id) ++ " " ++ paintAuthor (padRight 16 author) ++ " " ++
    padRight 6 media ++ " " ++ text

-- Items as a table, in the order in which they are given.
def table (colors : Bool) (items : List Item) : String :=
  if items.isEmpty then "No items match.\n"
  else
    let header := Style.paintIf colors .bold (row "ID" "Author" "Media" "Text" id id)
    let line := fun item : Item =>
      row (toString item.id.toNat) (truncate 16 item.author) (if item.hasMedia then "yes" else "")
        (truncate 48 item.text) (Style.paintIf colors .dim) (Style.paintIf colors .cyan) ++ "\n"
    header ++ "\n" ++ String.join (items.map line)

-- A timeline with its items.
def timelineJson (name queryText : String) (items : List Item) : Json.Value :=
  .object
    [("name", .string name),
     ("query_text", .string queryText),
     ("items", .array (items.map Item.toJson))]

end FilteredFeed.Report
