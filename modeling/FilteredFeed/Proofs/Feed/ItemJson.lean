import FilteredFeed.Feed.ItemJson
import FilteredFeed.Proofs.Feed.Instant
import FilteredFeed.Proofs.Json.Record

namespace FilteredFeed.Feed

open FilteredFeed.Json (EndsMember Reader)
open FilteredFeed.Text
open Grammar (bind_eq_ok ok_bind)
open Json.Record (Fills Keeps)

variable {item : Item} {text rest : List Char}

namespace Item

end Item

end FilteredFeed.Feed
