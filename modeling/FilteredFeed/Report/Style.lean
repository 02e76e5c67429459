namespace FilteredFeed.Report

-- How text stands out on a terminal.
inductive Style where
  | bold
  | dim
  | red
  | green
  | yellow
  | cyan
deriving DecidableEq, Repr

namespace Style

-- The codes that begin a style and that end it.
def codes : Style → String × String
  | .bold => ("1", "0")
  | .dim => ("2", "0")
  | .red => ("31", "39")
  | .green => ("32", "39")
  | .yellow => ("33", "39")
  | .cyan => ("36", "39")

def code (number : String) : String := "\x1b[" ++ number ++ "m"

def paint (style : Style) (text : String) : String :=
  code style.codes.1 ++ text ++ code style.codes.2

def paintIf (colors : Bool) (style : Style) (text : String) : String :=
  if colors then style.paint text else text

end Style

-- Fills a column up with blanks.
def padRight (width : Nat) (text : String) : String :=
  text ++ .ofList (List.replicate (width - text.length) ' ')

-- Cuts a text that has too many characters, with three dots in place of the rest.
def truncate (width : Nat) (text : String) : String :=
  if width < text.length then .ofList (text.toList.take (width - 3)) ++ "..." else text

end FilteredFeed.Report
