namespace FilteredFeed.Command

-- Why a file cannot be read.
inductive FileError where
  | notFound
  | notDirectory
  | isDirectory
  | other (reason : String)
deriving DecidableEq, Repr

def FileError.message : FileError → String
  | .notFound => "No such file or directory (os error 2)"
  | .notDirectory => "Not a directory (os error 20)"
  | .isDirectory => "Is a directory (os error 21)"
  | .other reason => reason

-- The files under one directory by their paths. Directories are there for the files in them.
abbrev Files := List (String × String)

-- The names of a path. Empty ones and dots stand for nothing.
def names (path : String) : List String :=
  (path.splitOn "/").filter fun name => name ≠ "" ∧ name ≠ "."

-- Puts a name at the end of a path.
def join (path name : String) : String :=
  if path.isEmpty || path.endsWith "/" then path ++ name else path ++ "/" ++ name

namespace Files

def file? (files : Files) (place : List String) : Option String :=
  (files.find? fun (path, _) => names path == place).map Prod.snd

def isDirectory (files : Files) (place : List String) : Bool :=
  place.isEmpty || files.any fun (path, _) =>
    place.isPrefixOf (names path) && decide (place.length < (names path).length)

-- Follows names from a place that is there.
def follow (files : Files) (place : List String) : List String → Except FileError (List String)
  | [] => .ok place
  | name :: rest =>
      if !files.isDirectory place then .error .notDirectory
      else if name = ".." then
        if place.isEmpty then .error .notFound else follow files place.dropLast rest
      else
        let next := place ++ [name]
        if files.isDirectory next || (files.file? next).isSome then follow files next rest
        else .error .notFound

-- A path that ends in a slash or a dot can only be a directory.
def wantsDirectory (path : String) : Bool := path.endsWith "/" || path.endsWith "/."

def read (files : Files) (path : String) : Except FileError String := do
  if path.isEmpty || path.startsWith "/" then throw .notFound
  let place ← files.follow [] (names path)
  match files.file? place with
  | some content => if wantsDirectory path then throw .notDirectory else return content
  | none => throw .isDirectory

end Files

-- Whether something can be found at a path, of which reading had this result.
def isPresent : Except FileError String → Bool
  | .ok _ => true
  | .error .isDirectory => true
  | .error _ => false

end FilteredFeed.Command
