import FilteredFeed.Text.Decimal

namespace FilteredFeed.Command

-- What was asked for.
inductive Request where
  | compile (filter : String)
  | run (filter items : String) (live : Option String) (limit : Option Nat)
  | verify (filter items : String)
  | showSettings
  | settingsPath
deriving DecidableEq, Repr

-- How it is to be answered.
structure Options where
  verbose : Bool := false
  quiet : Bool := false
  json : Bool := false
  noColor : Bool := false
deriving DecidableEq, Repr

inductive Arguments where
  | request (options : Options) (request : Request)
  -- asks for the version of a command
  | version (command : String)
  | help
  -- cannot be understood
  | wrong
deriving DecidableEq, Repr

-- A command, with the options that take a value and the commands in it.
structure Subcommand where
  name : String
  valued : List (Option Char × String) := []
  takesText : Bool := false
  commands : List (List String) := []

namespace Subcommand

def main : Subcommand :=
  { name := "feedline"
    commands := [["compile", "c"], ["run", "r"], ["verify"], ["config"], ["help"]] }

def compile : Subcommand := { name := "feedline-compile", takesText := true }

def run : Subcommand :=
  { name := "feedline-run"
    takesText := true
    valued := [(some 'i', "items"), (none, "live"), (some 'l', "limit")] }

def verify : Subcommand :=
  { name := "feedline-verify", takesText := true, valued := [(some 'i', "items")] }

def settings : Subcommand :=
  { name := "feedline-config", commands := [["show"], ["path"], ["help"]] }

def showSettings : Subcommand := { name := "feedline-config-show" }

def settingsPath : Subcommand := { name := "feedline-config-path" }

end Subcommand

-- The options that all commands know.
def flags : List (Option Char × String) :=
  [(some 'v', "verbose"), (some 'q', "quiet"), (none, "json"), (none, "no-color"),
   (some 'V', "version"), (some 'h', "help")]

-- What one command was given.
structure Given where
  flags : List String := []
  values : List (String × String) := []
  texts : List String := []

inductive Stop where
  | version
  | help
  | wrong
deriving DecidableEq, Repr

namespace Given

-- No flag may be given twice. The questions for version and help are answered at once.
def addFlag (given : Given) (name : String) : Except Stop Given :=
  if name = "version" then .error .version
  else if name = "help" then .error .help
  else if given.flags.contains name then .error .wrong
  else .ok { given with flags := name :: given.flags }

-- The limit is a count that fits into 64 bits, and all other values are paths.
def isValue (name value : String) : Bool :=
  if name = "limit" then
    match Text.Decimal.toInt? value.toList with
    | some n => !value.startsWith "-" && decide (n < UInt64.size)
    | none => false
  else value ≠ ""

def addValue (given : Given) (name value : String) : Except Stop Given :=
  if (given.values.lookup name).isSome || !isValue name value then .error .wrong
  else .ok { given with values := (name, value) :: given.values }

def addText (command : Subcommand) (given : Given) (text : String) : Except Stop Given :=
  if command.takesText && given.texts.isEmpty then .ok { given with texts := [text] }
  else .error .wrong

def has (given : Given) (name : String) : Bool := given.flags.contains name

end Given

-- Letters after one dash: flags, or an option with its value. A value that is not attached has
-- to follow.
def readLetters (command : Subcommand) : List Char → Given → Except Stop (Given × Option String)
  | [], given => .ok (given, none)
  | c :: rest, given =>
      match flags.find? (·.1 == some c), command.valued.find? (·.1 == some c) with
      | some (_, name), _ => do readLetters command rest (← given.addFlag name)
      | none, some (_, name) =>
          match rest with
          | [] => .ok (given, some name)
          | '=' :: value => do return (← given.addValue name (.ofList value), none)
          | value => do return (← given.addValue name (.ofList value), none)
      | none, none => .error .wrong

-- A word after two dashes.
def readWord (command : Subcommand) (word : List Char) (given : Given) :
    Except Stop (Given × Option String) :=
  let name : String := .ofList (word.takeWhile (· != '='))
  match word.dropWhile (· != '=') with
  | _ :: value =>
      if command.valued.any (·.2 == name) then do
        return (← given.addValue name (.ofList value), none)
      else .error .wrong
  | [] =>
      if command.valued.any (·.2 == name) then .ok (given, some name)
      else if flags.any (·.2 == name) then do return (← given.addFlag name, none)
      else .error .wrong

-- Whether an argument is taken for an option. A single dash is not.
def isOption (argument : String) : Bool := argument.startsWith "-" && argument ≠ "-"

-- Reads the arguments of a command up to a command in it, whose name and arguments are left.
-- After two dashes alone nothing is an option or a command any more.
def scan (command : Subcommand) : List String → Given → Except Stop (Given × Option (String × List String))
  | [], given => .ok (given, none)
  | argument :: rest, given =>
      match command.commands.find? (·.contains argument) with
      | some names => .ok (given, some (names.headD "", rest))
      | none =>
          if argument = "--" then do
            return (← rest.foldlM (Given.addText command) given, none)
          else if !isOption argument then do scan command rest (← given.addText command argument)
          else do
            let letters := argument.toList.drop 1
            let (given, wanted) ←
              match letters with
              | '-' :: word => readWord command word given
              | letters => readLetters command letters given
            match wanted, rest with
            | none, rest => scan command rest given
            | some name, value :: rest =>
                if isOption value then throw .wrong
                else scan command rest (← given.addValue name value)
            | some _, [] => throw .wrong

-- Quiet and verbose at once make no sense, as far as one command is told so.
def consistent (given : Given) : Except Stop Unit :=
  if given.has "quiet" && given.has "verbose" then .error .wrong else .ok ()

-- What was given to a command and to the commands around it.
def options (given : List Given) : Options :=
  { verbose := given.any (·.has "verbose")
    quiet := given.any (·.has "quiet")
    json := given.any (·.has "json")
    noColor := given.any (·.has "no-color") }

-- A command in which there are no others.
def readLast (command : Subcommand) (arguments : List String) (around : List Given)
    (request : Given → Option Request) : Except (Stop × String) (Options × Request) := do
  let fail := fun stop : Stop => (stop, command.name)
  let (given, _) ← (scan command arguments {}).mapError fail
  match request given with
  | some request =>
      (given :: around).forM fun given => (consistent given).mapError fail
      return (options (given :: around), request)
  | none => throw (.wrong, command.name)

def readCompile (given : Given) : Option Request := given.texts.head?.map .compile

def readRun (given : Given) : Option Request := do
  let limit := (given.values.lookup "limit").bind fun limit => Text.Decimal.toInt? limit.toList
  return .run (← given.texts.head?) (← given.values.lookup "items") (given.values.lookup "live")
    (limit.map Int.toNat)

def readVerify (given : Given) : Option Request := do
  return .verify (← given.texts.head?) (← given.values.lookup "items")

-- Help is there on commands only.
def helpOn (commands : List Subcommand) (topic : List String) : Stop :=
  if topic.all (commands.flatMap Subcommand.commands).flatten.contains then .help else .wrong

def readSettings (arguments : List String) (around : List Given) :
    Except (Stop × String) (Options × Request) := do
  let fail := fun stop : Stop => (stop, Subcommand.settings.name)
  let (given, rest) ← (scan .settings arguments {}).mapError fail
  match rest with
  | none =>
      (given :: around).forM fun given => (consistent given).mapError fail
      return (options (given :: around), .showSettings)
  | some ("show", rest) => readLast .showSettings rest (given :: around) fun _ => some .showSettings
  | some ("path", rest) => readLast .settingsPath rest (given :: around) fun _ => some .settingsPath
  | some (_, topic) => throw (helpOn [.settings] topic, Subcommand.settings.name)

def readMain (arguments : List String) : Except (Stop × String) (Options × Request) := do
  let (given, rest) ← (scan .main arguments {}).mapError fun stop => (stop, Subcommand.main.name)
  match rest with
  | some ("compile", rest) => readLast .compile rest [given] readCompile
  | some ("run", rest) => readLast .run rest [given] readRun
  | some ("verify", rest) => readLast .verify rest [given] readVerify
  | some ("config", rest) => readSettings rest [given]
  | some (_, topic) => throw (helpOn [.main, .settings] topic, Subcommand.main.name)
  | none => throw (.wrong, Subcommand.main.name)

def Arguments.read (arguments : List String) : Arguments :=
  match readMain arguments with
  | .ok (given, wanted) => .request given wanted
  | .error (.version, command) => .version command
  | .error (.help, _) => .help
  | .error (.wrong, _) => .wrong

end FilteredFeed.Command
