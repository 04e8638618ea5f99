import Crosscheck.Shell.Program.Files

/-! # Removing -/

namespace Crosscheck.Shell.Remove

open Act Files

/-- How to remove. -/
structure Plan where
  force : Bool
  ask : Bool
  recursive : Bool
  /-- Empty directories are removed, too. -/
  empty : Bool
  verbose : Bool

/-- What a question calls something. -/
def kind : Node → String
  | .file content _ => if content.isEmpty then "regular empty file" else "regular file"
  | .link _ => "symbolic link"
  | .directory _ => "directory"
  | .device _ => "character special file"
  | .stream _ => "fifo"

/-- Removes what is at a path, and what is below it. -/
def remove (start : Start) (plan : Plan) : Nat → String → Act Outcome
  | 0, _ => hang
  | fuel + 1, path => do
    let cannot (reason : String) : Act Outcome :=
      failed start ("cannot remove " ++ start.quoted path ++ ": " ++ reason)
    match ← look false path with
    | .error fault =>
      if plan.force && (fault = .notFound || fault = .notDirectory) then return {} else cannot fault.text
    | .ok status =>
      let question (text : String) : Act Bool :=
        if plan.ask then agrees start (text ++ " " ++ start.quoted path ++ "?") else pure true
      let erase (told : String) : Act Outcome := do
        change fun k => k.remove status.place
        return Outcome.told plan.verbose (told ++ start.quoted path)
      match status.node with
      | .directory _ =>
        let names := ((← view).children status.place).map (·.1) |>.mergeSort
        if !plan.recursive && (!plan.empty || !names.isEmpty) then
          cannot (if plan.empty then "Directory not empty" else Fault.isDirectory.text)
        else
          let entered ← if names.isEmpty then pure true else question "descend into directory"
          if !entered then return {}
          else
            let inner ← forEach names fun name => remove start plan fuel (below path (Raw.ofText name))
            if inner.status != 0 then return inner
            else if !(← question "remove directory") then return inner
            else if ((← view).children status.place).isEmpty then
              return inner.and (← erase "removed directory ")
            else return inner
      | node =>
        if path.endsWith "/" then cannot Fault.notDirectory.text
        else if ← question ("remove " ++ kind node) then erase "removed "
        else return {}

/-- Removes an operand, if it is no directory that must stay. -/
def removeOperand (start : Start) (plan : Plan) (path : String) : Act Outcome := do
  let name := leaf path
  if plan.recursive && !path.isEmpty && (name = "." || name = "..") then
    failed start ("refusing to remove '.' or '..' directory: skipping " ++ start.quoted path)
  else if plan.recursive && (← look true path).toOption.any (·.place = []) then
    let _ ← failed start ("it is dangerous to operate recursively on " ++ start.quoted path
      ++ if path = "/" then "" else " (same as '/')")
    failed start "use --no-preserve-root to override this failsafe"
  else remove start plan 1000 path

def rm : Program := fun start => do
  let known : Switches :=
    { letters := "dfiIrRv".toList
      longs := [⟨"force", 'f'⟩, ⟨"recursive", 'r'⟩, ⟨"dir", 'd'⟩, ⟨"verbose", 'v'⟩] }
  match ← start.options known with
  | none => return 1
  | some chosen =>
    let last := (chosen.options.reverse.find? fun o => "fiI".toList.contains o.1).map (·.1)
    let plan : Plan :=
      { force := last == some 'f'
        ask := last == some 'i'
        recursive := chosen.has 'r' || chosen.has 'R'
        empty := chosen.has 'd'
        verbose := chosen.has 'v' }
    let operands := chosen.operands
    if operands.isEmpty then
      if plan.force then return 0 else start.refuse "missing operand"
    else
      let many := last == some 'I' && (plan.recursive || 3 < operands.length)
      let things := toString operands.length ++ (if operands.length = 1 then " argument" else " arguments")
      let wanted ← if many then
          agrees start ("remove " ++ things ++ (if plan.recursive then " recursively?" else "?"))
        else pure true
      if wanted then finish start (← forEach operands (removeOperand start plan)) else return 0

/-! ## Empty directories -/

/-- A path and those above it, the path first. -/
def upwards : Nat → String → List String
  | 0, _ => []
  | fuel + 1, path =>
    let parts := (Path.segments path).reverse.dropWhile (· == "")
    let above := (parts.tail.dropWhile (· == "")).reverse
    if above.isEmpty then [path] else path :: upwards fuel ("/".intercalate above)

def rmdir : Program := fun start => do
  let known : Switches :=
    { letters := "pv".toList
      longs := [⟨"parents", 'p'⟩, ⟨"verbose", 'v'⟩, ⟨"ignore-fail-on-non-empty", 'I'⟩] }
  match ← start.options known with
  | none => return 1
  | some chosen =>
    let removeEmpty (what path : String) : Act Outcome := do
      let told := Outcome.told (chosen.has 'v')
        (start.name ++ ": removing directory, " ++ start.quoted path)
      let cannot (reason : String) : Act Outcome := do
        return told.and (← failed start
          ("failed to remove " ++ what ++ start.quoted path ++ ": " ++ reason))
      match ← look false path with
      | .error fault => cannot fault.text
      | .ok status =>
        if !status.node.isDirectory then cannot Fault.notDirectory.text
        else if leaf path = "." then cannot "Invalid argument"
        else if !((← view).children status.place).isEmpty then
          if chosen.has 'I' then return { told with status := 2 } else cannot "Directory not empty"
        else
          change fun k => k.remove status.place
          return told
    let rec climb : List String → Act Outcome
      | [] => return {}
      | path :: rest => do
        let outcome ← removeEmpty "directory " path
        if outcome.status = 0 then return outcome.and (← climb rest) else return outcome
    if chosen.operands.isEmpty then start.refuse "missing operand"
    else
      let outcome ← forEach chosen.operands fun path => do
        let first ← removeEmpty "" path
        let all ← if first.status = 0 && chosen.has 'p' then
            pure (first.and (← climb (upwards path.length path).tail)) else pure first
        return { all with status := if all.status = 2 then 0 else all.status }
      finish start outcome

end Crosscheck.Shell.Remove
