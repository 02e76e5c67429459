import FilteredFeed.Unicode.Property

namespace FilteredFeed.Text.Quoted

open FilteredFeed.Unicode

-- Separators, controls and code points without a character are not shown as they are.
def unprintable : CharSet :=
  Category.unassigned.union (Category.membersOf
    [.control, .format, .surrogate, .privateUse, .lineSeparator, .paragraphSeparator,
     .spaceSeparator])

def combining : CharSet := Property.graphemeExtend.members

def isPrintable (c : Char) : Bool :=
  if c.toNat < 0x80 then decide (0x20 ≤ c.toNat ∧ c.toNat < 0x7F) else !unprintable.contains c

def isCombining (c : Char) : Bool :=
  if c.toNat < 0x80 then false else combining.contains c

def escapeChar (c : Char) : List Char :=
  if c = '\x00' then ['\\', '0']
  else if c = '\t' then ['\\', 't']
  else if c = '\r' then ['\\', 'r']
  else if c = '\n' then ['\\', 'n']
  else if c = '"' then ['\\', '"']
  else if c = '\\' then ['\\', '\\']
  else if isCombining c || !isPrintable c then
    ['\\', 'u', '\x7b'] ++ Nat.toDigits 16 c.toNat ++ ['\x7d']
  else [c]

-- Text in double quotes, in which every character can be told.
def encode (text : List Char) : List Char := '"' :: text.flatMap escapeChar ++ ['"']

def render (text : String) : String := .ofList (encode text.toList)

end FilteredFeed.Text.Quoted
