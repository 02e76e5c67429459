import FilteredFeed.Text.Letters

namespace FilteredFeed.Feed

inductive FieldKind where
  | integer
  | text
  | bool
deriving DecidableEq, Repr

def FieldKind.name : FieldKind → String
  | .integer => "integer"
  | .text => "text"
  | .bool => "bool"

-- The columns of an item that filters can ask for.
inductive Field where
  | id
  | author
  | text
  | hasMedia
  | isRetweet
  | inReplyTo
  | favoriteCount
  | lang
  | createdAt
deriving DecidableEq, Repr

namespace Field

def all : List Field :=
  [.id, .author, .text, .hasMedia, .isRetweet, .inReplyTo, .favoriteCount, .lang, .createdAt]

def name : Field → String
  | .id => "id"
  | .author => "author"
  | .text => "text"
  | .hasMedia => "has_media"
  | .isRetweet => "is_retweet"
  | .inReplyTo => "in_reply_to"
  | .favoriteCount => "favorite_count"
  | .lang => "lang"
  | .createdAt => "created_at"

def names : List String := all.map name

-- Names are found in any case.
def ofName? (word : String) : Option Field :=
  all.find? fun field => Text.sameWord word field.name

def kind : Field → FieldKind
  | .id | .inReplyTo | .favoriteCount | .createdAt => .integer
  | .author | .text | .lang => .text
  | .hasMedia | .isRetweet => .bool

-- Whether an item may lack the field.
def isNullable : Field → Bool
  | .inReplyTo | .lang => true
  | _ => false

end Field

-- What an item holds in a column.
inductive FieldValue where
  | null
  | integer (n : Int)
  | text (s : String)
  | bool (b : Bool)
deriving DecidableEq, Repr

end FilteredFeed.Feed
