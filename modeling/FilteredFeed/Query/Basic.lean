import FilteredFeed.Filter.Compiled
import FilteredFeed.Filter.Parser
import FilteredFeed.Listener.Registry

namespace FilteredFeed

open FilteredFeed.Filter FilteredFeed.Grammar FilteredFeed.Listener

variable [Patterns]

-- A filter that several timelines can share, with its compiled form and those who are told of its
-- changes.
structure Query (τ : Type) where
  expr : Expr := .contradiction
  -- the text the expression was read from
  source : Option String := none
  -- the compiled form, from its first use to the next change
  compiled : Option CompiledFilter := none
  -- how many changes there were
  revision : Nat := 0
  -- how many users have activated it
  activations : Nat := 0
  -- how many times it was compiled
  compilations : Nat := 0
  registry : Registry τ := {}

namespace Query

variable {τ : Type}

instance : Inhabited (Query τ) := ⟨{}⟩

def ofExpr (expr : Expr) : Query τ := { expr }

def parse (text : String) : Except ReadError (Query τ) := do
  return { expr := ← Expr.parse text, source := some text }

-- The compiled form, which is kept.
def compile (q : Query τ) : CompiledFilter × Query τ :=
  match q.compiled with
  | some filter => (filter, q)
  | none =>
      let filter := q.expr.compile
      (filter, { q with compiled := some filter, compilations := q.compilations + 1 })

def replace (q : Query τ) (expr : Expr) (source : Option String) : Query τ :=
  { q with expr, source, compiled := none, revision := q.revision + 1 }

-- Text that cannot be read makes the query match nothing.
def replaceSource (q : Query τ) (text : String) : Except ReadError Unit × Query τ :=
  match Expr.parse text with
  | .ok expr => (.ok (), q.replace expr (some text))
  | .error e => (.error e, q.replace .contradiction (some text))

def isActive (q : Query τ) : Bool := decide (0 < q.activations)

end Query

end FilteredFeed
