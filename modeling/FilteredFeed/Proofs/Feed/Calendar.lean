import FilteredFeed.Feed.Instant
import Mathlib.Order.Monotone.Basic
import Mathlib.Tactic.IntervalCases
import Mathlib.Tactic.Ring

namespace FilteredFeed.Feed.Instant

variable {days n : Int} {era c q k r : Int}

-- A day of the calendar by its place in 400 years, a century, four years and a year, each of which
-- begins with March. Only a year that ends with a leap day has a day with the number 365.
structure Place (days era c q k r : Int) : Prop where
  century : 0 ≤ c ∧ c ≤ 3
  four : 0 ≤ q ∧ q ≤ 24
  year : 0 ≤ k ∧ k ≤ 3
  day : 0 ≤ r ∧ (r ≤ 364 ∨ r = 365 ∧ k = 3 ∧ (q ≤ 23 ∨ c = 3))
  sum : days + 719468 = era * 146097 + (36524 * c + 1461 * q + 365 * k + r)

namespace Place

-- How the place of a day is computed.

end Place

theorem daysOfDate_newYear (year : Int) :
    daysOfDate (year + 1) 1 1 = 365 * year + year / 4 - year / 100 + year / 400 - 719162 := by
  have hera : year.fdiv 400 = year / 400 := Int.fdiv_eq_ediv_of_nonneg _ (by decide)
  unfold daysOfDate
  simp only [Nat.one_le_ofNat, if_true, Int.add_sub_cancel, hera]
  omega

theorem newYear_step (year : Int) :
    daysOfDate year 1 1 + 365 ≤ daysOfDate (year + 1) 1 1 := by
  have hbefore := daysOfDate_newYear (year - 1)
  rw [Int.sub_add_cancel] at hbefore
  rw [hbefore, daysOfDate_newYear]
  omega

theorem newYear_mono {first last : Int} (h : first ≤ last) :
    daysOfDate first 1 1 ≤ daysOfDate last 1 1 := by
  refine monotone_int_of_le_succ (f := fun year => daysOfDate year 1 1) (fun year => ?_) h
  have hstep := newYear_step year
  omega

end FilteredFeed.Feed.Instant
