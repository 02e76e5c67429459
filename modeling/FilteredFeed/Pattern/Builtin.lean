import FilteredFeed.Pattern.Parser
import FilteredFeed.Pattern.Patterns

namespace FilteredFeed.Pattern

-- The engine that the program runs with.
instance : Patterns where
  Matcher := Node
  compile text := (compile text).mapError PatternError.message
  isMatch := Node.isMatch

end FilteredFeed.Pattern
