import FilteredFeed.Toml.Value

namespace FilteredFeed.Toml.Quotation

def isHexDigit (c : Char) : Bool :=
  c.isDigit || ('a' ≤ c && c ≤ 'f') || ('A' ≤ c && c ≤ 'F')

def hexDigit (c : Char) : Nat :=
  if c.isDigit then c.toNat - '0'.toNat
  else if c.isUpper then c.toNat - 'A'.toNat + 10
  else c.toNat - 'a'.toNat + 10

-- A character by so many hexadecimal digits.
def codePoint (digits : Nat) : Reader Char := fun text =>
  let code := text.take digits
  if code.length = digits ∧ code.all isHexDigit then
    let n := code.foldl (fun n c => 16 * n + hexDigit c) 0
    if n.isValidChar then some (Char.ofNat n, text.drop digits) else none
  else none

-- A character after a backslash.
def escape : Reader Char
  | 'b' :: rest => some ('\x08', rest)
  | 't' :: rest => some ('\t', rest)
  | 'n' :: rest => some ('\n', rest)
  | 'f' :: rest => some ('\x0c', rest)
  | 'r' :: rest => some ('\r', rest)
  | '"' :: rest => some ('"', rest)
  | '\\' :: rest => some ('\\', rest)
  | 'u' :: rest => codePoint 4 rest
  | 'U' :: rest => codePoint 8 rest
  | _ => none

-- Only double quotes give a meaning to backslashes.
def hasEscapes (quote : Char) : Bool := quote == '"'

-- Text on one line, up to its closing quote. `room` bounds the characters.
def line (quote : Char) : Nat → Reader (List Char)
  | 0, _ => none
  | room + 1, text =>
      match text with
      | [] => none
      | c :: rest =>
          if c = quote then some ([], rest)
          else if c = '\\' ∧ hasEscapes quote then do
            let (c, rest) ← escape rest
            let (cs, rest) ← line quote room rest
            return (c :: cs, rest)
          else if isPlain c then do
            let (cs, rest) ← line quote room rest
            return (c :: cs, rest)
          else none

-- Whether only blanks are left of the line, so that a backslash before them joins lines.
def endsLine (text : List Char) : Bool := (newline? (skipBlanks text)).isSome

-- Text on several lines, up to three closing quotes. One or two quotes are text, also right before
-- the closing ones.
def lines (quote : Char) : Nat → Reader (List Char)
  | 0, _ => none
  | room + 1, text =>
      match text with
      | [] => none
      | c :: rest =>
          if c = quote then
            let run := (text.takeWhile (· == quote)).length
            if run < 3 then do
              let (cs, rest) ← lines quote room rest
              return (c :: cs, rest)
            else if run ≤ 5 then some (List.replicate (run - 3) quote, text.drop run)
            else none
          else if c = '\\' ∧ hasEscapes quote then
            if endsLine rest then
              lines quote room (rest.dropWhile fun c => isBlank c || c == '\n' || c == '\r')
            else do
              let (c, rest) ← escape rest
              let (cs, rest) ← lines quote room rest
              return (c :: cs, rest)
          else
            match newline? (c :: rest) with
            | some rest => do
                let (cs, rest) ← lines quote room rest
                return ('\n' :: cs, rest)
            | none =>
                if isPlain c then do
                  let (cs, rest) ← lines quote room rest
                  return (c :: cs, rest)
                else none

-- Text after its first quote. A line end right after three quotes is left out.
def read (quote : Char) : Reader String := fun text => do
  let (cs, rest) ←
    if [quote, quote].isPrefixOf text then
      let text := text.drop 2
      let text := (newline? text).getD text
      lines quote (text.length + 1) text
    else line quote (text.length + 1) text
  return (.ofList cs, rest)

end FilteredFeed.Toml.Quotation
