import FilteredFeed.Clause.Parser
import FilteredFeed.Filter.Compiled
import FilteredFeed.Filter.Parser

namespace FilteredFeed.Filter

open FilteredFeed.Clause FilteredFeed.Feed FilteredFeed.Grammar

variable [Patterns]

-- What the two forms of a filter say of an item.
structure Verdict where
  id : ItemId
  inMemory : Bool
  byClause : Bool
deriving DecidableEq, Repr

def Verdict.agrees (v : Verdict) : Bool := v.inMemory == v.byClause

-- What a filter text comes to for some items, in both forms.
structure Agreement where
  queryText : String
  verdicts : List Verdict
deriving DecidableEq, Repr

namespace Agreement

-- How many items the filter accepts in memory.
def accepted (a : Agreement) : Nat := a.verdicts.countP (·.inMemory)

def mismatches (a : Agreement) : List Verdict := a.verdicts.filter fun v => !v.agrees

-- Reads a filter and applies it to items, in memory and by the clause made from it.
def check (text : String) (items : List Item) : Except ReadError Agreement := do
  let filter := (← Expr.parse text).compile
  let verdicts ← items.mapM fun item => do
    let condition ← Condition.parse filter.queryText
    return ⟨item.id, filter.accepts item, condition.holds item⟩
  return ⟨filter.queryText, verdicts⟩

end Agreement

end FilteredFeed.Filter
