import FilteredFeed.Json.Reader
import FilteredFeed.Json.Value
import FilteredFeed.Proofs.Grammar.Chain
import FilteredFeed.Proofs.Text.Decimal

namespace FilteredFeed.Json

open FilteredFeed.Text

variable {n room max : Nat} {c : Char} {text rest : List Char}

-- What may come after the value of a member: another member, or the end of the object.
inductive EndsMember : List Char → Prop where
  | comma (rest : List Char) : EndsMember (',' :: rest)
  | closing (rest : List Char) : EndsMember ('\x7d' :: rest)

namespace Quotation

end Quotation

namespace Number

end Number

section Optional

variable {α : Type} {reader : Reader α} {value : α}

end Optional

end FilteredFeed.Json
