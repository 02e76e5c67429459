import FilteredFeed.Command.Arguments
import FilteredFeed.Command.Settings
import FilteredFeed.Engine.Materialize
import FilteredFeed.Feed.ItemJson
import FilteredFeed.Filter.Agreement
import FilteredFeed.Pattern.Builtin
import FilteredFeed.Report.Filter
import FilteredFeed.Report.Items
import FilteredFeed.Report.Settings

namespace FilteredFeed.Command

open FilteredFeed.Engine FilteredFeed.Feed FilteredFeed.Filter FilteredFeed.Grammar
open FilteredFeed.Timeline

-- Why a request cannot be met.
inductive Failure where
  | filter (e : ReadError)
  | timeline (e : TimelineError)
  | settings (reason : String)
  | items (path reason : String)
  | mismatches (count : Nat)
deriving DecidableEq, Repr

namespace Failure

def message : Failure → String
  | .filter e => "filter error: " ++ e.message
  | .timeline e => "timeline error: " ++ e.message
  | .settings reason => "configuration error: " ++ reason
  | .items path reason => "item fixture '" ++ path ++ "': " ++ reason
  | .mismatches count => toString count ++ " item(s) where predicate and query text disagree"

def code : Failure → String
  | .filter _ => "FILTER_ERROR"
  | .timeline _ => "TIMELINE_ERROR"
  | .settings _ => "CONFIG_ERROR"
  | .items _ _ => "FIXTURE_ERROR"
  | .mismatches _ => "MISMATCH"

def exit : Failure → Nat
  | .filter _ => 1
  | .timeline _ => 2
  | .items _ _ => 3
  | .mismatches _ => 4
  | .settings _ => 5

def ofMaterialize : MaterializeError → Failure
  | .filter e => .filter e
  | .timeline e => .timeline e

def json (e : Failure) : Json.Value :=
  .object [("error", .object [("code", .string e.code), ("message", .string e.message)])]

end Failure

-- What a run of the program leaves behind.
structure Outcome where
  exit : Nat := 0
  stdout : String := ""
  stderr : String := ""
deriving DecidableEq, Repr

-- What stands for the message of a text that is out of form.
def jsonErrorText : String := "<json error>"

def tomlErrorText : String := "<toml error>"

def usageText : String := "<usage>"

-- What stands for the message of a program that breaks off.
def breakText : String := "<panic>"

def programVersion : String := "0.1.0"

-- What a request is carried out with.
structure Setting where
  environment : Environment
  -- what reading a file comes to
  read : String → Except FileError String
  options : Options

namespace Setting

def colors (s : Setting) : Bool := !s.options.noColor

-- Writes for scripts or for people; the latter may want quiet.
def output (s : Setting) (json : Json.Value) (text : String) : String :=
  if s.options.json then json.pretty ++ "\n" else if s.options.quiet then "" else text

def fail (s : Setting) (failure : Failure) : Outcome :=
  { exit := failure.exit
    stderr :=
      if s.options.json then failure.json.pretty ++ "\n" else "Error: " ++ failure.message ++ "\n" }

def settingsPath (s : Setting) : Except Failure String :=
  match s.environment.settingsPath? with
  | some path => .ok path
  | none => .error (.settings "Could not determine config directory")

-- Without a file everything has its default.
def settings (s : Setting) : Except Failure Settings := do
  match s.read (← s.settingsPath) with
  | .ok content =>
      match Settings.parse? content with
      | some settings => return settings
      | none => throw (.settings ("Failed to parse config: " ++ tomlErrorText))
  | .error .isDirectory =>
      throw (.settings ("Failed to read config: " ++ FileError.isDirectory.message))
  | .error _ => return {}

def items (s : Setting) (path : String) : Except Failure (List Item) :=
  match s.read path with
  | .error e => .error (.items path e.message)
  | .ok content => (Item.listOfJson content).mapError fun _ => .items path jsonErrorText

def compile (s : Setting) (source : String) : Except Failure Outcome := do
  let filter := (← (Expr.parse source).mapError .filter).compile
  let stdout := s.output (Report.Compiled.json source filter) (Report.Compiled.text s.colors filter)
  return { stdout }

-- What is said of a run besides its items.
def details (m : Materialized) : String :=
  "query: " ++ m.queryText ++ "\nlive items admitted: " ++ toString m.accepted ++ "\n" ++
    (match m.unread with
    | some unread => "unread: " ++ toString unread ++ "\n"
    | none => "")

def run (s : Setting) (filter stored : String) (live : Option String) (limit : Option Nat) :
    Except Failure Outcome := do
  let config := (← s.settings).timeline
  let stored ← s.items stored
  let live ← match live with
    | some path => s.items path
    | none => pure []
  let config := { config with maxItems := limit.getD config.maxItems }
  match materialize? s.environment.room filter stored live config with
  | none => return { exit := 101, stderr := breakText }
  | some result =>
      let m ← result.mapError .ofMaterialize
      return {
        stdout := s.output (Report.timelineJson m.name m.queryText m.items)
          (Report.table s.colors m.items)
        stderr :=
          if s.options.verbose && !s.options.quiet && !s.options.json then details m else "" }

-- Items on which the two forms of the filter differ are reported, and make the request fail.
def verify (s : Setting) (filter path : String) : Except Failure Outcome := do
  let a ← (Agreement.check filter (← s.items path)).mapError .filter
  let stdout := s.output (Report.Agreement.json a) (Report.Agreement.text s.colors a)
  if a.mismatches.isEmpty then return { stdout }
  else return { s.fail (.mismatches a.mismatches.length) with stdout }

def showSettings (s : Setting) : Except Failure Outcome := do
  let settings ← s.settings
  let path ← s.settingsPath
  let present := isPresent (s.read path)
  let json := Report.Settings.json path present settings
  return { stdout := s.output json (Report.Settings.text s.colors path present settings) }

def showPath (s : Setting) : Except Failure Outcome := do
  let path ← s.settingsPath
  let present := isPresent (s.read path)
  let json := Report.Settings.placeJson path present
  return { stdout := if s.options.json then json.pretty ++ "\n" else path ++ "\n" }

def perform (s : Setting) : Request → Except Failure Outcome
  | .compile filter => s.compile filter
  | .run filter items live limit => s.run filter items live limit
  | .verify filter items => s.verify filter items
  | .showSettings => s.showSettings
  | .settingsPath => s.showPath

end Setting

-- The files that a request may read.
def Request.paths (environment : Environment) : Request → List String
  | .compile _ => []
  | .run _ items live _ => environment.settingsPath?.toList ++ items :: live.toList
  | .verify _ items => [items]
  | .showSettings | .settingsPath => environment.settingsPath?.toList

-- Carries out what the arguments ask for.
def Arguments.execute (environment : Environment) (read : String → Except FileError String) :
    Arguments → Outcome
  | .version command => { stdout := command ++ " " ++ programVersion ++ "\n" }
  | .help => { stdout := usageText }
  | .wrong => { exit := 2, stderr := usageText }
  | .request options wanted =>
      let setting : Setting := { environment, read, options }
      match setting.perform wanted with
      | .ok outcome => outcome
      | .error failure => setting.fail failure

end FilteredFeed.Command
