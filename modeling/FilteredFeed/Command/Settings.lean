import FilteredFeed.Command.Files
import FilteredFeed.Timeline.Config
import FilteredFeed.Toml.Document

namespace FilteredFeed.Command

open FilteredFeed.Timeline

-- What a settings file holds.
structure Settings where
  version : Nat := 1
  timeline : Config := {}
deriving DecidableEq, Repr

namespace Settings

def currentVersion : Nat := 1

def count? : Toml.Value → Option Nat
  | .integer n => if 0 ≤ n then some n.toNat else none
  | _ => none

def flag? : Toml.Value → Option Bool
  | .bool b => some b
  | _ => none

def text? : Toml.Value → Option String
  | .string s => some s
  | _ => none

-- The settings of a timeline by their keys.
def timelineFields : List (String × (Config → Toml.Value → Option Config)) :=
  [("name", fun c v => do return { c with name := ← text? v }),
   ("max_items", fun c v => do return { c with maxItems := ← count? v }),
   ("backfill_count", fun c v => do return { c with backfillCount := ← count? v }),
   ("notify_new_arrivals", fun c v => do return { c with notifyNewArrivals := ← flag? v }),
   ("count_unread", fun c v => do return { c with countUnread := ← flag? v }),
   ("event_capacity", fun c v => do return { c with eventCapacity := ← count? v })]

-- What is not given takes its default, and unknown keys are ignored. A list gives the values in
-- their order, and a date gives none.
def timeline? : Toml.Value → Option Config
  | .table members =>
      timelineFields.foldlM
        (fun config (key, set) => match members.lookup key with
          | some v => set config v
          | none => some config) {}
  | .array items => (timelineFields.zip items).foldlM (fun config (field, v) => field.2 config v) {}
  | .date => some {}
  | _ => none

-- Older and newer versions are taken for the current one.
def ofToml (members : List (String × Toml.Value)) : Option Settings := do
  match members.lookup "version" with
  | some v => guard ((← count? v) < UInt32.size)
  | none => pure ()
  match members.lookup "timeline" with
  | some v => return { version := currentVersion, timeline := ← timeline? v }
  | none => return { version := currentVersion }

def parse? (text : String) : Option Settings := (Toml.parse? text).bind ofToml

end Settings

-- What the program is told by the system it runs on.
structure Environment where
  assignments : List (String × String) := []
  -- the home directory of the account, where none is given
  accountHome : Option String := none
  -- for how many places of a channel there is memory
  room : Nat := 4294967296

namespace Environment

def home? (env : Environment) : Option String :=
  match env.assignments.lookup "HOME" with
  | some home => if home.isEmpty then env.accountHome else some home
  | none => env.accountHome

-- Where settings are kept: the place that is given, or the place for settings of all programs.
def settingsPath? (env : Environment) : Option String :=
  match env.assignments.lookup "FEEDLINE_CONFIG" with
  | some path => some path
  | none =>
      let base :=
        match env.assignments.lookup "XDG_CONFIG_HOME" with
        | some base => some base
        | none => env.home?.map fun home => join home ".config"
      base.map fun base => join (join base "feedline") "config.toml"

end Environment

end FilteredFeed.Command
