import FilteredFeed.Unicode.CaseFold
import FilteredFeed.Unicode.Property
import FilteredFeed.Unicode.Script

namespace FilteredFeed.Pattern.Class

open FilteredFeed.Text (CharSet)
open FilteredFeed.Unicode

def digits : CharSet := Category.decimalNumber.members

def blanks : CharSet := ListedProperty.whiteSpace.members

def wordChars : CharSet :=
  .unions [Property.alphabetic.members, ListedProperty.joinControl.members,
    Category.membersOf [.nonspacingMark, .spacingMark, .enclosingMark, .decimalNumber,
      .connectorPunctuation]]

def asciiDigits : CharSet := .ofTable "30-39"

def asciiBlanks : CharSet := .ofTable "9-d 20"

def asciiWordChars : CharSet := .ofTable "30-39 41-5a 5f 61-7a"

-- The other case of the ASCII letters.
def closeAscii (s : CharSet) : CharSet :=
  let flipped := (s.inter (.ofTable "41-5a")).ranges.map fun (lo, hi) => (lo + 32, hi + 32)
  let raised := (s.inter (.ofTable "61-7a")).ranges.map fun (lo, hi) => (lo - 32, hi - 32)
  .ofRanges (s.ranges ++ flipped ++ raised)

-- The classes written `[:name:]`.
def posix? : String → Option CharSet
  | "alnum" => some (.ofTable "30-39 41-5a 61-7a")
  | "alpha" => some (.ofTable "41-5a 61-7a")
  | "ascii" => some (.ofTable "0-7f")
  | "blank" => some (.ofTable "9 20")
  | "cntrl" => some (.ofTable "0-1f 7f")
  | "digit" => some asciiDigits
  | "graph" => some (.ofTable "21-7e")
  | "lower" => some (.ofTable "61-7a")
  | "print" => some (.ofTable "20-7e")
  | "punct" => some (.ofTable "21-2f 3a-40 5b-60 7b-7e")
  | "space" => some asciiBlanks
  | "upper" => some (.ofTable "41-5a")
  | "word" => some asciiWordChars
  | "xdigit" => some (.ofTable "30-39 41-46 61-66")
  | _ => none

-- General categories and groups of them, with their names in lower case and without separators.
def categoryNames : List (List String × List Category) :=
  [(["c", "other"], [.control, .format, .privateUse]),
   (["cc", "control", "cntrl"], [.control]),
   (["cf", "format"], [.format]),
   (["co", "privateuse"], [.privateUse]),
   (["l", "letter"],
    [.uppercaseLetter, .lowercaseLetter, .titlecaseLetter, .modifierLetter, .otherLetter]),
   (["lc", "casedletter"], [.uppercaseLetter, .lowercaseLetter, .titlecaseLetter]),
   (["ll", "lowercaseletter"], [.lowercaseLetter]),
   (["lm", "modifierletter"], [.modifierLetter]),
   (["lo", "otherletter"], [.otherLetter]),
   (["lt", "titlecaseletter"], [.titlecaseLetter]),
   (["lu", "uppercaseletter"], [.uppercaseLetter]),
   (["m", "mark", "combiningmark"], [.nonspacingMark, .spacingMark, .enclosingMark]),
   (["mc", "spacingmark"], [.spacingMark]),
   (["me", "enclosingmark"], [.enclosingMark]),
   (["mn", "nonspacingmark"], [.nonspacingMark]),
   (["n", "number"], [.decimalNumber, .letterNumber, .otherNumber]),
   (["nd", "decimalnumber", "digit"], [.decimalNumber]),
   (["nl", "letternumber"], [.letterNumber]),
   (["no", "othernumber"], [.otherNumber]),
   (["p", "punctuation", "punct"],
    [.connectorPunctuation, .dashPunctuation, .openPunctuation, .closePunctuation,
     .initialPunctuation, .finalPunctuation, .otherPunctuation]),
   (["pc", "connectorpunctuation"], [.connectorPunctuation]),
   (["pd", "dashpunctuation"], [.dashPunctuation]),
   (["pe", "closepunctuation"], [.closePunctuation]),
   (["pf", "finalpunctuation"], [.finalPunctuation]),
   (["pi", "initialpunctuation"], [.initialPunctuation]),
   (["po", "otherpunctuation"], [.otherPunctuation]),
   (["ps", "openpunctuation"], [.openPunctuation]),
   (["s", "symbol"], [.mathSymbol, .currencySymbol, .modifierSymbol, .otherSymbol]),
   (["sc", "currencysymbol"], [.currencySymbol]),
   (["sk", "modifiersymbol"], [.modifierSymbol]),
   (["sm", "mathsymbol"], [.mathSymbol]),
   (["so", "othersymbol"], [.otherSymbol]),
   (["z", "separator"], [.spaceSeparator, .lineSeparator, .paragraphSeparator]),
   (["zl", "lineseparator"], [.lineSeparator]),
   (["zp", "paragraphseparator"], [.paragraphSeparator]),
   (["zs", "spaceseparator"], [.spaceSeparator])]

def category? (name : String) : Option CharSet :=
  if name = "any" then some .all
  else if name = "assigned" then some Category.unassigned.compl
  else if name = "ascii" then some (.range 0 0x7F)
  else if name = "cn" ∨ name = "unassigned" then some Category.unassigned
  else
    match categoryNames.find? fun (names, _) => names.contains name with
    | some (names, categories) =>
        let members := Category.membersOf categories
        some (if names.contains "c" then members.union Category.unassigned else members)
    | none => none

-- Names are compared without case, separators, a leading `is` and all that is not ASCII. The
-- category `c` keeps its `is`, which is then the name of a property.
def normalize (name : List Char) : String :=
  let (rest, hasIs) :=
    match name with
    | a :: b :: rest => if a.toLower = 'i' ∧ b.toLower = 's' then (rest, true) else (name, false)
    | _ => (name, false)
  let kept := rest.filter fun c => c ≠ ' ' ∧ c ≠ '_' ∧ c ≠ '-' ∧ c.toNat < 0x80
  let normal := kept.map Char.toLower
  if hasIs && normal = ['c'] then "isc" else .ofList normal

-- Names that properties without a table of members have.
def otherPropertyNames : List String :=
  ["age", "bc", "bidiclass", "blk", "block", "bmg", "bidimirroringglyph", "bpb",
   "bidipairedbracket", "bpt", "bidipairedbrackettype", "canonicalcombiningclass", "ccc",
   "casefolding", "ce", "compositionexclusion", "compex", "fullcompositionexclusion",
   "changeswhennfkccasefolded", "cwkcf", "decompositionmapping", "decompositiontype", "dm", "dt",
   "ea", "eastasianwidth", "expandsonnfc", "expandsonnfd", "expandsonnfkc", "expandsonnfkd",
   "fcnfkc", "fcnfkcclosure", "gc", "generalcategory", "gcb", "graphemeclusterbreak",
   "hangulsyllabletype", "hst", "indicpositionalcategory", "inpc", "indicsyllabiccategory",
   "insc", "isc", "isocomment", "jamoshortname", "jsn", "jg", "joininggroup", "joiningtype", "jt",
   "lb", "linebreak", "lowercasemapping", "na", "na1", "name", "namealias", "nfcqc",
   "nfcquickcheck", "nfdqc", "nfdquickcheck", "nfkccasefold", "nfkccf", "nfkcqc",
   "nfkcquickcheck", "nfkdqc", "nfkdquickcheck", "nt", "numerictype", "numericvalue", "nv",
   "sb", "script", "scriptextensions", "scx", "sentencebreak", "sfc", "scf",
   "simplecasefolding", "simplelowercasemapping", "simpletitlecasemapping",
   "simpleuppercasemapping", "slc", "stc", "suc", "tc", "titlecasemapping", "uc", "unicode1name",
   "uppercasemapping", "verticalorientation", "vo", "wb", "wordbreak", "xonfc", "xonfd", "xonfkc",
   "xonfkd"]

-- A class by the name of a property, a general category or a script. The three names that both
-- a property and a category have are those of categories.
def named? (name : List Char) : Option CharSet :=
  let name := normalize name
  let isCategory := ["cf", "sc", "lc"].contains name
  match if isCategory then none else Property.ofName? name with
  | some property => some property.members
  | none =>
      if !isCategory && otherPropertyNames.contains name then none
      else
        match category? name with
        | some members => some members
        | none => (Script.ofName? name).map Script.members

-- A class by the name of a property and one of its values.
def valued? (property value : List Char) : Option CharSet :=
  let value := normalize value
  match normalize property with
  | "gc" | "generalcategory" => category? value
  | "sc" | "script" => (Script.ofName? value).map Script.members
  | "scx" | "scriptextensions" => (Script.ofName? value).map Script.usedWith
  | _ => none

end FilteredFeed.Pattern.Class
