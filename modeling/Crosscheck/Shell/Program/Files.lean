import Crosscheck.Shell.Program

/-! # Working on files

What programs that copy, move, make and remove files have in common.
-/

namespace Crosscheck.Shell.Files

open Act

/-- What became of operands: the status, and a text to be written at the end. -/
structure Outcome where
  status : Nat := 0
  text : String := ""

namespace Outcome

def and (one other : Outcome) : Outcome :=
  ⟨max one.status other.status, one.text ++ other.text⟩

/-- Success, about which something can be told. -/
def told (verbose : Bool) (line : String) : Outcome :=
  { text := if verbose then line ++ "\n" else "" }

end Outcome

/-- Works on items one after another. -/
def forEach (items : List String) (action : String → Act Outcome) : Act Outcome :=
  items.foldlM (fun all item => return all.and (← action item)) {}

/-- Says at once what has gone wrong. -/
def failed (start : Start) (text : String) : Act Outcome := do
  start.say text
  return { status := 1 }

def finish (start : Start) (outcome : Outcome) : Act Nat :=
  start.close { pending := Raw.toBytes outcome.text.toList } outcome.status

/-- What there is at a path, and where. -/
def look (follow : Bool) (path : String) : Act (Except Fault Kernel.Status) := do
  let k ← kernel
  let disk := k.view
  return do
    let place ← disk.locate follow (Raw.toText path)
    match disk.node? place with
    | some node => .ok ⟨node, place, (k.changes.lookup place).getD 0, k.modeOf place node⟩
    | none => .error .notFound

/-! ## Questions -/

/-- Reads the rest of a line. -/
def readLine : Nat → Bytes → Act Bytes
  | 0, _ => hang
  | fuel + 1, seen => do
    match ← read 0 1 with
    | .bytes [10] => return seen.reverse
    | .bytes bytes => readLine fuel (bytes.reverse ++ seen)
    | .blocked => readLine fuel seen
    | _ => return seen.reverse

/-- Asks a question; whether the answer begins like a yes. -/
def agrees (start : Start) (question : String) : Act Bool := do
  writeText 2 (start.name ++ ": " ++ question ++ " ")
  let answer ← readLine patience []
  return answer.head? == some 121 || answer.head? == some 89

/-! ## Targets -/

/-- The last part of a path. -/
def leaf (path : String) : String :=
  ((Path.segments path).filter (· != "")).getLastD "/"

/-- A name in a directory. -/
def below (directory name : String) : String :=
  if directory.endsWith "/" then directory ++ name else directory ++ "/" ++ name

/-- Operands, and where they are to go. -/
structure Goal where
  sources : List String
  target : String
  /-- The target is a directory in which they go. -/
  inside : Bool

/-- Where an operand is to go. -/
def Goal.path (goal : Goal) (source : String) : String :=
  if !goal.inside then goal.target
  else below goal.target (if leaf source = ".." then "." else leaf source)

/-- The switches that say what a target is. -/
def targetLongs : List Long :=
  [⟨"target-directory", 't'⟩, ⟨"no-target-directory", 'T'⟩]

/-- The goal of operands; nothing if there is none, which is said. -/
def goal? (start : Start) (chosen : Switches.Chosen) : Act (Option Goal) := do
  let operands := chosen.operands
  let directory := (chosen.options.reverse.find? (·.1 == 't')).map (·.2)
  let fault (path : String) : Act (Option Fault) := do
    match ← look true path with
    | .ok status => return if status.node.isDirectory then none else some .notDirectory
    | .error fault => return some fault
  let refused (text : String) : Act (Option Goal) := do
    start.say text
    return none
  let misused (text : String) : Act (Option Goal) := do
    let _ ← start.refuse text
    return none
  match operands, directory with
  | [], _ => misused "missing file operand"
  | [only], none => misused ("missing destination file operand after " ++ start.quoted only)
  | _, some directory =>
    if chosen.has 'T' then
      refused "cannot combine --target-directory (-t) and --no-target-directory (-T)"
    else
      match ← fault directory with
      | none => return some ⟨operands, directory, true⟩
      | some fault => refused ("target directory " ++ start.quoted directory ++ ": " ++ fault.text)
  | _, none =>
    let target := operands.getLastD ""
    if chosen.has 'T' then
      match operands with
      | _ :: _ :: extra :: _ => misused ("extra operand " ++ start.quoted extra)
      | _ => return some ⟨operands.dropLast, target, false⟩
    else
      match ← fault target with
      | none => return some ⟨operands.dropLast, target, true⟩
      | some fault =>
        if 2 < operands.length then
          refused ("target " ++ start.quoted target ++ ": " ++ fault.text)
        else return some ⟨operands.dropLast, target, false⟩

end Crosscheck.Shell.Files
