import FilteredFeed.Feed.Item
import FilteredFeed.Json.Reader
import FilteredFeed.Json.Value

namespace FilteredFeed.Feed

open FilteredFeed.Json (Reader)

def ItemId.reader : Reader ItemId := fun text => do
  let (n, rest) ← Json.natural (UInt64.size - 1) text
  return (UInt64.ofNat n, rest)

namespace Item

-- How texts are read and written is up to libraries. It is assumed that they do what `Json` and
-- `Instant` say: strings have the escapes of JSON, integers all their digits, and times the form of
-- RFC 3339.

-- The fields in the order in which they are written.
def fields : List (Json.Field Item) :=
  [.of "id" true ItemId.reader fun item id => { item with id },
   .of "author" true Json.string fun item author => { item with author },
   .of "text" false Json.string fun item text => { item with text },
   .of "has_media" false Json.bool fun item hasMedia => { item with hasMedia },
   .of "is_retweet" false Json.bool fun item isRetweet => { item with isRetweet },
   .of "in_reply_to" false (Json.optional ItemId.reader)
     fun item inReplyTo => { item with inReplyTo },
   .of "favorite_count" false (Json.natural (UInt32.size - 1))
     fun item n => { item with favoriteCount := UInt32.ofNat n },
   .of "lang" false (Json.optional Json.string) fun item lang => { item with lang },
   .of "created_at" false (Json.decoded Instant.read?)
     fun item createdAt => { item with createdAt }]

-- What is not given takes its default.
def reader : Reader Item := Json.Record.read fields { id := 0, author := "" }

def ofJson (text : String) : Except Json.ReadError Item := Json.parse reader text

def listOfJson (text : String) : Except Json.ReadError (List Item) :=
  Json.parse (Json.list reader) text

def idJson (id : ItemId) : Json.Value := .number id.toNat

-- Absent fields are left out.
def members (item : Item) : List (String × Json.Value) :=
  [("id", idJson item.id), ("author", .string item.author), ("text", .string item.text),
    ("has_media", .bool item.hasMedia), ("is_retweet", .bool item.isRetweet)] ++
  (item.inReplyTo.map fun id => ("in_reply_to", idJson id)).toList ++
  [("favorite_count", .number item.favoriteCount.toNat)] ++
  (item.lang.map fun lang => ("lang", .string lang)).toList ++
  [("created_at", .string (.ofList item.createdAt.render))]

def toJson (item : Item) : Json.Value := .object item.members

end Item

end FilteredFeed.Feed
