import FilteredFeed.Feed.Field
import FilteredFeed.Feed.Instant

namespace FilteredFeed.Feed

-- A larger identifier is newer.
abbrev ItemId := UInt64

-- One entry of a feed.
structure Item where
  id : ItemId
  author : String
  text : String := ""
  hasMedia : Bool := false
  isRetweet : Bool := false
  inReplyTo : Option ItemId := none
  favoriteCount : UInt32 := 0
  lang : Option String := none
  createdAt : Instant := Instant.epoch
deriving DecidableEq, Repr, Inhabited

-- Filters see identifiers as signed 64-bit numbers, and all that are larger as the largest of them.
def ItemId.toColumn (id : ItemId) : Int := min (id.toNat : Int) Int64.maxValue.toInt

def Item.value (item : Item) : Field → FieldValue
  | .id => .integer item.id.toColumn
  | .author => .text item.author
  | .text => .text item.text
  | .hasMedia => .bool item.hasMedia
  | .isRetweet => .bool item.isRetweet
  | .inReplyTo =>
      match item.inReplyTo with
      | some id => .integer (ItemId.toColumn id)
      | none => .null
  | .favoriteCount => .integer item.favoriteCount.toNat
  | .lang =>
      match item.lang with
      | some lang => .text lang
      | none => .null
  | .createdAt => .integer item.createdAt.seconds

end FilteredFeed.Feed
