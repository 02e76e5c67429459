import FilteredFeed.Unicode.Property

namespace FilteredFeed.Text

open FilteredFeed.Unicode

-- The white space of Unicode.
def isBlank (c : Char) : Bool :=
  let code := c.toNat
  decide (9 ≤ code ∧ code ≤ 13) || code == 0x20 || code == 0x85 || code == 0xA0 ||
    code == 0x1680 || decide (0x2000 ≤ code ∧ code ≤ 0x200A) || code == 0x2028 ||
    code == 0x2029 || code == 0x202F || code == 0x205F || code == 0x3000

def alphabetic : CharSet := Property.alphabetic.members

def numeric : CharSet := Category.membersOf [.decimalNumber, .letterNumber, .otherNumber]

-- ASCII is decided without the tables.
def isLetter (c : Char) : Bool :=
  if c.toNat < 0x80 then c.isAlpha else alphabetic.contains c

def isNumeral (c : Char) : Bool :=
  if c.toNat < 0x80 then c.isDigit else numeric.contains c

-- What words begin with, and what they go on with.
def isWordStart (c : Char) : Bool := isLetter c || c == '_'

def isWordPart (c : Char) : Bool := isLetter c || isNumeral c || c == '_'

def trimStart (text : List Char) : List Char := text.dropWhile isBlank

def trimEnd (text : List Char) : List Char := (text.reverse.dropWhile isBlank).reverse

def trim (text : List Char) : List Char := trimEnd (trimStart text)

-- Words are compared without regard to the case of the ASCII letters.
def lower (word : List Char) : List Char := word.map Char.toLower

def sameWord (word : String) (keyword : String) : Bool := lower word.toList == lower keyword.toList

-- The length in bytes of UTF-8, in which positions are counted.
def byteLength (text : List Char) : Nat := text.foldr (fun c n => c.utf8Size + n) 0

end FilteredFeed.Text
