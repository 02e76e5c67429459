namespace FilteredFeed

-- The engine of regular expressions, which is no part of the program. All that the program relies on
-- is that the same text always comes to the same: a matcher, or the reason why it is no pattern.
class Patterns where
  Matcher : Type
  compile : String → Except String Matcher
  -- whether some part of a text matches
  isMatch : Matcher → String → Bool

end FilteredFeed
