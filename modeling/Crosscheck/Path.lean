/-! # Paths

A path is a string whose segments are divided by slashes. `segments` cuts at every slash;
`components` is what the path means apart from spelling: repeated and trailing slashes and every `.`
but one at the very start are left out. Two paths with the same components name the same place.
-/

namespace Crosscheck.Path

/-- The parts of a path between its slashes, at least one. -/
def segments (path : String) : List String :=
  (path.toList.splitOn '/').map String.ofList

def isAbsolute (path : String) : Bool :=
  path.toList.head? == some '/'

/-- One step of a path. -/
inductive Component where
  | root
  | here
  | parent
  | name (text : String)
  deriving DecidableEq, Repr

/-- The step a segment stands for when it is not the first one. -/
def Component.ofSegment? (segment : String) : Option Component :=
  if segment = "" ∨ segment = "." then none
  else if segment = ".." then some .parent
  else some (.name segment)

/-- The steps of a path: the root if it is absolute, then each segment that says something. A dot
says something only at the start of a relative path. -/
def components (path : String) : List Component :=
  match segments path with
  | [] => []
  | first :: rest =>
    let tail := rest.filterMap Component.ofSegment?
    if isAbsolute path then .root :: tail
    else if first = "." then .here :: tail
    else (Component.ofSegment? first).toList ++ tail

/-- A path below a base. An absolute path stays as it is, and a slash is put in unless the base is
empty or brings its own. -/
def join (base path : String) : String :=
  if isAbsolute path then path
  else if base.isEmpty then path
  else if base.toList.getLast? = some '/' then base ++ path
  else base ++ "/" ++ path

/-- A lone file name would be searched for among the installed programs, so it is anchored to the
working directory; every other path is left alone. -/
def direct (path : String) : String :=
  match components path with
  | [.name _] => join "." path
  | _ => path

/-- A file name cut at its last dot: the stem and the extension after the dot. A name whose only dot
is its first character has no extension. -/
def splitExtension (name : String) : String × Option String :=
  let cs := name.toList
  let ext := (cs.reverse.takeWhile (· != '.')).reverse
  let stem := cs.take (cs.length - ext.length - 1)
  if name = ".." ∨ ¬ cs.contains '.' ∨ stem.isEmpty then (name, none)
  else (String.ofList stem, some (String.ofList ext))

def Component.text : Component → String
  | root => "/"
  | here => "."
  | parent => ".."
  | name text => text

/-- A path with the given steps. -/
def ofComponents : List Component → String
  | .root :: rest => "/" ++ "/".intercalate (rest.map Component.text)
  | steps => "/".intercalate (steps.map Component.text)

/-- The path without its last step. It is empty for a single name; the root and the empty path have
nothing above them. -/
def parent? (path : String) : Option String :=
  match components path with
  | [] | [.root] => none
  | steps => some (ofComponents steps.dropLast)

end Crosscheck.Path
