namespace FilteredFeed.Text

def startsWith (needle text : List Char) : Bool := needle.isPrefixOf text

def endsWith (needle text : List Char) : Bool := needle.reverse.isPrefixOf text.reverse

def occursIn (needle : List Char) : List Char → Bool
  | [] => needle.isEmpty
  | c :: text => startsWith needle (c :: text) || occursIn needle text

end FilteredFeed.Text
