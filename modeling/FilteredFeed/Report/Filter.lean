import FilteredFeed.Filter.Agreement
import FilteredFeed.Json.Value
import FilteredFeed.Report.Style

namespace FilteredFeed.Report

open FilteredFeed.Filter

variable [Patterns]

namespace Compiled

-- The clause of a filter, and a warning for every part that was lost.
def text (colors : Bool) (filter : CompiledFilter) : String :=
  let warning := fun d : Degradation =>
    Style.paintIf colors .yellow ("warning: " ++ d.message ++ " (matches nothing)") ++ "\n"
  filter.queryText ++ "\n" ++ String.join (filter.degradations.map warning)

def json (source : String) (filter : CompiledFilter) : Json.Value :=
  .object
    [("filter", .string source),
     ("query_text", .string filter.queryText),
     ("degradations", .array (filter.degradations.map fun d => .string d.message))]

end Compiled

namespace Agreement

-- The clause of a filter, how many items it accepts, and every item of which the two forms say
-- different things.
def text (colors : Bool) (a : Filter.Agreement) : String :=
  let mismatch := fun v : Verdict =>
    Style.paintIf colors .red
      ("mismatch on item " ++ toString v.id.toNat ++ ": predicate=" ++ toString v.inMemory ++
        " query_text=" ++ toString v.byClause) ++ "\n"
  a.queryText ++ "\nchecked " ++ toString a.verdicts.length ++ " item(s), " ++
    toString a.accepted ++ " accepted\n" ++ String.join (a.mismatches.map mismatch)

def verdictJson (v : Verdict) : Json.Value :=
  .object
    [("id", .number v.id.toNat), ("predicate", .bool v.inMemory), ("query_text", .bool v.byClause)]

def json (a : Filter.Agreement) : Json.Value :=
  .object
    [("query_text", .string a.queryText),
     ("checked", .number a.verdicts.length),
     ("accepted", .number a.accepted),
     ("mismatches", .array (a.mismatches.map verdictJson))]

end Agreement

end FilteredFeed.Report
