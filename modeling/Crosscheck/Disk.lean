import Crosscheck.Path
import Crosscheck.Text.Utf8
import Std.Data.HashMap

/-! # The disk

A disk holds files, symbolic links and directories at locations, which are lists of names from the
root. A path is followed from the working directory (or the root, if it is absolute) step by step,
through directories in which names may be looked up; links met on the way are replaced by their
targets, forty of them at most.
-/

namespace Crosscheck

/-- Why the system refuses an operation on a path or a program. -/
inductive Fault where
  | notFound
  | badFormat
  | denied
  | taken
  | notDirectory
  | isDirectory
  | nameTooLong
  | tooManyLinks
  | tooManyOpen
  | noDevice
  | badName
  deriving DecidableEq, Repr

namespace Fault

def text : Fault → String
  | notFound => "No such file or directory"
  | badFormat => "Exec format error"
  | denied => "Permission denied"
  | taken => "File exists"
  | notDirectory => "Not a directory"
  | isDirectory => "Is a directory"
  | nameTooLong => "File name too long"
  | tooManyLinks => "Too many levels of symbolic links"
  | tooManyOpen => "Too many open files"
  | noDevice => "No such device or address"
  | badName => "file name contained an unexpected NUL byte"

/-- The number of the fault. A bad name is refused before the system sees it. -/
def number? : Fault → Option Nat
  | notFound => some 2
  | noDevice => some 6
  | badFormat => some 8
  | denied => some 13
  | taken => some 17
  | notDirectory => some 20
  | isDirectory => some 21
  | tooManyOpen => some 24
  | nameTooLong => some 36
  | tooManyLinks => some 40
  | badName => none

def message (fault : Fault) : String :=
  match fault.number? with
  | some number => fault.text ++ " (os error " ++ toString number ++ ")"
  | none => fault.text

end Fault

/-- Names from the root down. -/
abbrev Location := List String

/-- What reads and writes like a file and keeps nothing. -/
inductive Device where
  | null
  /-- Zeros without end. -/
  | zeros
  /-- Never has room. -/
  | full
  | random
  | terminal
  deriving DecidableEq, Repr

inductive Node where
  | file (content : Bytes) (executable : Bool)
  | link (target : String)
  /-- It can be listed in any case, but names in it can be looked up only if it is searchable. -/
  | directory (searchable : Bool)
  | device (device : Device)
  /-- What a process has open and is nowhere on the disk, by its number. -/
  | stream (number : Nat)
  deriving DecidableEq, Repr

def Node.isDirectory : Node → Bool
  | .directory _ => true
  | _ => false

structure Disk where
  entries : List (Location × Node)
  /-- Where relative paths start. -/
  cwd : Location
  distinct : (entries.map Prod.fst).Nodup

namespace Disk

/-- An empty disk whose working directory is a fresh directory. -/
def fresh : Disk :=
  ⟨[(["work"], .directory true)], ["work"], by simp⟩

/-- What is at a location. The root is a directory that everyone may search. -/
def node? (d : Disk) (loc : Location) : Option Node :=
  if loc = [] then some (.directory true) else d.entries.lookup loc

def erase (d : Disk) (loc : Location) : Disk where
  entries := d.entries.filter (fun e => e.1 ≠ loc)
  cwd := d.cwd
  distinct := d.distinct.sublist (List.filter_sublist.map _)

def set (d : Disk) (loc : Location) (node : Node) : Disk where
  entries := (loc, node) :: (d.erase loc).entries
  cwd := d.cwd
  distinct := by
    rw [List.map_cons, List.nodup_cons]
    exact ⟨by simp [erase], (d.erase loc).distinct⟩

/-- Puts nodes at their locations; of two for one location the later stays. -/
def setAll (d : Disk) (nodes : List (Location × Node)) : Disk :=
  let table := Std.HashMap.ofList nodes
  { entries := table.toList ++ d.entries.filter fun e => !table.contains e.1
    cwd := d.cwd
    distinct := by
      rw [List.map_append, List.nodup_append]
      refine ⟨?_, d.distinct.sublist (List.filter_sublist.map _), ?_⟩
      · rw [Std.HashMap.map_fst_toList_eq_keys]
        exact Std.HashMap.nodup_keys
      · rintro loc new _ old rfl
        rw [Std.HashMap.map_fst_toList_eq_keys, Std.HashMap.mem_keys] at new
        simp only [List.mem_map, List.mem_filter] at old
        obtain ⟨e, ⟨_, unset⟩, rfl⟩ := old
        simp [new] at unset }

/-- The names directly below a location, with what is there. -/
def children (d : Disk) (loc : Location) : List (String × Node) :=
  d.entries.filterMap fun (at_, node) =>
    match at_.getLast? with
    | some name => if at_.dropLast = loc then some (name, node) else none
    | none => none

/-! ## Following a path -/

/-- What stands in the way of looking names up at a location. -/
def barrier? (d : Disk) (here : Location) : Option Fault :=
  match d.node? here with
  | some (.directory true) => none
  | some (.directory false) => some .denied
  | some (.file _ _) | some (.link _) | some (.device _) | some (.stream _) => some .notDirectory
  | none => some .notFound

/-- What the next segment of a path means at a location. -/
inductive Heading where
  | stay
  | up
  | refused (fault : Fault)
  | enter
  | follow (target : String)
  /-- The path ends there, or it is at fault. -/
  | stop (fault : Fault)

/-- An empty segment is skipped. Any other is looked up, dots too. -/
def heading (d : Disk) (here : Location) (segment : String) : Heading :=
  if segment = "" then .stay
  else
    match d.barrier? here with
    | some fault => .refused fault
    | none =>
      if segment = "." then .stay
      else if segment = ".." then .up
      else if segment.utf8ByteSize > 255 then .refused .nameTooLong
      else
        match d.node? (here ++ [segment]) with
        | some (.directory _) => .enter
        | some (.link target) => .follow target
        | some (.file _ _) | some (.device _) | some (.stream _) => .stop .notDirectory
        | none => .stop .notFound

/-- Steps from a directory along segments. A segment before the end must lead to a directory; the
last one may lead nowhere. A link is handed to `redirect` with the directory it is in, its target
and the segments still to come, except a last one that is not to be followed. -/
def walkSegments (d : Disk) (follow : Bool)
    (redirect : Location → String → List String → Except Fault Location) :
    Location → List String → Except Fault Location
  | here, [] => .ok here
  | here, segment :: rest =>
    match d.heading here segment with
    | .stay => walkSegments d follow redirect here rest
    | .up => walkSegments d follow redirect here.dropLast rest
    | .refused fault => .error fault
    | .enter => walkSegments d follow redirect (here ++ [segment]) rest
    | .follow target =>
      if rest = [] ∧ follow = false then .ok (here ++ [segment]) else redirect here target rest
    | .stop fault => if rest = [] then .ok (here ++ [segment]) else .error fault

/-- Follows segments through at most `links` links. -/
def walk (d : Disk) (follow : Bool) : Nat → Location → List String → Except Fault Location
  | 0, _, _ => .error .tooManyLinks
  | links + 1, here, segments =>
    d.walkSegments follow
      (fun base target rest =>
        walk d follow links (if Path.isAbsolute target then [] else base)
          (Path.segments target ++ rest))
      here segments

/-- Where a path starts. -/
def origin (d : Disk) (path : String) : Location :=
  if Path.isAbsolute path then [] else d.cwd

def checkName (path : String) : Except Fault Unit :=
  if path.toList.contains '\x00' then .error .badName
  else if path.isEmpty then .error .notFound
  else if path.utf8ByteSize > 4095 then .error .nameTooLong
  else .ok ()

/-- The location a path leads to; nothing need be there. -/
def locate (d : Disk) (follow : Bool) (path : String) : Except Fault Location := do
  checkName path
  d.walk follow 41 (d.origin path) (Path.segments path)

/-- What a path leads to, links followed. -/
def stat (d : Disk) (path : String) : Except Fault Node := do
  let loc ← d.locate true path
  match d.node? loc with
  | some node => .ok node
  | none => .error .notFound

def pathExists (d : Disk) (path : String) : Bool :=
  match d.stat path with
  | .ok _ => true
  | .error _ => false

/-- Whether anything is at a path, be it a link that leads nowhere. -/
def lexists (d : Disk) (path : String) : Bool :=
  match d.locate false path with
  | .ok loc => (d.node? loc).isSome
  | .error _ => false

def isFile (d : Disk) (path : String) : Bool :=
  match d.stat path with
  | .ok (.file _ _) => true
  | _ => false

def isDir (d : Disk) (path : String) : Bool :=
  match d.stat path with
  | .ok node => node.isDirectory
  | .error _ => false

/-- The bytes of a file. -/
def readFile (d : Disk) (path : String) : Except Fault Bytes := do
  match ← d.stat path with
  | .file content _ => .ok content
  | .device .null => .ok []
  | _ => .error .isDirectory

/-- The names in a directory, with what is there. The directory need not be searchable. -/
def readDir (d : Disk) (path : String) : Except Fault (List (String × Node)) := do
  let loc ← d.locate true path
  match d.node? loc with
  | some (.directory _) => .ok (d.children loc)
  | some _ => .error .notDirectory
  | none => .error .notFound

/-! ## Changing the disk -/

/-- Where the last name of a path is looked up. There is no such name if the path ends in the root, a
dot or two dots. -/
structure Spot where
  dir : Location
  leaf : Option String
  /-- Slashes follow the name. -/
  slash : Bool

/-- The spot of a path. Links before the last name are followed. -/
def spot (d : Disk) (path : String) : Except Fault Spot := do
  checkName path
  let named := (Path.segments path).reverse.dropWhile (· == "")
  let slash := (Path.segments path).getLast? == some ""
  let dir ← d.walk true 41 (d.origin path) (named.tail.reverse ++ ["."])
  match named.head? with
  | none => .ok ⟨dir, none, true⟩
  | some leaf =>
    if leaf = "." ∨ leaf = ".." then .ok ⟨dir, none, slash⟩
    else if leaf.utf8ByteSize > 255 then .error .nameTooLong
    else .ok ⟨dir, some leaf, slash⟩

/-- Removes the file or link a path names; a link at the end of the path is removed itself. -/
def unlink (d : Disk) (path : String) : Except Fault Disk := do
  match ← d.spot path with
  | ⟨_, none, _⟩ => .error .isDirectory
  | ⟨dir, some leaf, slash⟩ =>
    match d.node? (dir ++ [leaf]) with
    | none => .error .notFound
    | some (.directory _) => .error .isDirectory
    | some _ => if slash then .error .notDirectory else .ok (d.erase (dir ++ [leaf]))

/-- Writes a file, making it if need be. A file that was there keeps its mode unless it is made
executable. -/
def writeFile (d : Disk) (path : String) (content : Bytes) (executable : Bool) :
    Except Fault Disk := do
  match ← d.spot path with
  | ⟨_, none, _⟩ | ⟨_, _, true⟩ => .error .isDirectory
  | ⟨_, some _, false⟩ =>
    let loc ← d.locate true path
    match d.node? loc with
    | some (.file _ mode) => .ok (d.set loc (.file content (mode || executable)))
    | none => .ok (d.set loc (.file content executable))
    | some (.device _) | some (.stream _) => .ok d
    | some (.link _) | some (.directory _) => .error .isDirectory

/-- Makes a directory; nothing may be there yet, not even a link that leads nowhere. -/
def makeDir (d : Disk) (path : String) : Except Fault Disk := do
  match ← d.spot path with
  | ⟨_, none, _⟩ => .error .taken
  | ⟨dir, some leaf, _⟩ =>
    match d.node? (dir ++ [leaf]) with
    | none => .ok (d.set (dir ++ [leaf]) (.directory true))
    | some _ => .error .taken

/-- A path and those above it, the path first. -/
def ancestors (path : String) : List String :=
  go (Path.components path).length path
where
  go : Nat → String → List String
    | 0, _ => []
    | steps + 1, path =>
      match Path.parent? path with
      | none => []
      | some above => path :: go steps above

/-- Makes a directory with everything above it; one that is there already is fine. The nearest
directory that can be made or is there is the start of those to make. What was made before a fault
stays. -/
def makeDirs (d : Disk) (path : String) : Disk × Option Fault :=
  descend d [] (ancestors path)
where
  /-- Makes directories from the top down. -/
  fill (d : Disk) : List String → Disk × Option Fault
    | [] => (d, none)
    | path :: rest =>
      match d.makeDir path with
      | .ok d => fill d rest
      | .error fault => if fault = .taken ∧ d.isDir path then fill d rest else (d, some fault)
  /-- Looks for the start among a path and those above it. -/
  descend (d : Disk) (missing : List String) : List String → Disk × Option Fault
    | [] => fill d missing
    | path :: above =>
      match d.makeDir path with
      | .ok d => fill d missing
      | .error .notFound => descend d (path :: missing) above
      | .error fault =>
        if fault = .taken ∧ d.isDir path then fill d missing else (d, some fault)

/-- Makes a symbolic link; nothing may be there yet. -/
def makeLink (d : Disk) (path target : String) : Except Fault Disk := do
  checkName target
  match ← d.spot path with
  | ⟨_, none, _⟩ => .error .taken
  | ⟨dir, some leaf, slash⟩ =>
    match d.node? (dir ++ [leaf]) with
    | some _ => .error .taken
    | none => if slash then .error .notFound else .ok (d.set (dir ++ [leaf]) (.link target))

/-- Sets or clears the executable mode of a file. -/
def setMode (d : Disk) (path : String) (executable : Bool) : Except Fault Disk := do
  let loc ← d.locate true path
  match d.node? loc with
  | some (.file content _) => .ok (d.set loc (.file content executable))
  | some _ => .ok d
  | none => .error .notFound

/-! ## Listing -/

/-- The mark that shows what an entry of a listing is. -/
def listMark : Node → String
  | .file _ _ | .device _ | .stream _ => ""
  | .link _ => "@"
  | .directory _ => "/"

/-- Everything below the working directory, as paths relative to it, in order. -/
def listing (d : Disk) : List String :=
  let below := d.entries.filterMap fun (loc, node) =>
    if d.cwd.isPrefixOf loc ∧ d.cwd.length < loc.length then
      some ("/".intercalate (loc.drop d.cwd.length) ++ listMark node)
    else none
  below.mergeSort (fun a b => decide (a ≤ b))

end Disk

/-! ## Scripted changes -/

/-- One change to make to a disk. -/
inductive Change where
  | makeDir (path : String)
  | remove (path : String)
  | link (path target : String)
  | write (path : String) (content : Bytes) (executable : Bool)

namespace Change

def path : Change → String
  | makeDir p | remove p | link p _ | write p _ _ => p

/-- Makes the change where the directories above its path are there. -/
def perform (change : Change) (d : Disk) : Disk × Option Fault :=
  let kept (result : Except Fault Disk) : Disk × Option Fault :=
    match result with
    | .ok d => (d, none)
    | .error fault => (d, some fault)
  match change with
  | makeDir path => d.makeDirs path
  | remove path => kept (d.unlink path)
  | link path target => kept (d.makeLink path target)
  | write path content executable => kept (d.writeFile path content executable)

/-- Makes the directories above the path, then the change. A change that cannot be made is left out,
apart from the directories that were made for it. -/
def apply (d : Disk) (change : Change) : Disk :=
  match d.makeDirs ((Path.parent? change.path).getD "") with
  | (d, none) => (change.perform d).1
  | (d, some _) => d

end Change

/-- Makes changes one after another. -/
def Disk.applyAll (d : Disk) (changes : List Change) : Disk :=
  changes.foldl Change.apply d

end Crosscheck
