import FilteredFeed.Proofs.Feed.Calendar
import FilteredFeed.Proofs.Text.Decimal

namespace FilteredFeed.Feed.Instant

open FilteredFeed.Text

variable {t : Instant} {n width : Nat} {digits rest text : List Char} {leap : Bool}

-- Points in time of the years from `first` to `last`. Any second may be followed by a leap second.
structure IsTime (first last : Int) (t : Instant) : Prop where
  begun : daysOfDate first 1 1 * 86400 ≤ t.seconds
  ended : t.seconds < daysOfDate (last + 1) 1 1 * 86400
  nanos : t.nanos < 2000000000

namespace Read

end Read

theorem IsTime.mono {first last first' last' : Int} (h : t.IsTime first last)
    (hfirst : first' ≤ first) (hlast : last ≤ last') : t.IsTime first' last' := by
  have hbegun := newYear_mono hfirst
  have hended := newYear_mono (show last + 1 ≤ last' + 1 by omega)
  obtain ⟨hfrom, huntil, hnanos⟩ := h
  exact ⟨by omega, by omega, hnanos⟩

end FilteredFeed.Feed.Instant
