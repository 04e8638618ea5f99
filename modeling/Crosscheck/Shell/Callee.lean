import Crosscheck.Shell.Builtin.Table
import Crosscheck.Shell.Redirection

/-! # The words of simple commands -/

namespace Crosscheck.Shell

open Act

/-- What a simple command runs, as far as it is known. -/
structure Callee where
  /-- All words so far. -/
  shown : List String
  /-- The name and arguments of what is run. -/
  words : List String
  /-- Words that are still to be expanded. -/
  rest : List Word
  /-- Whether the first command of the shell that was named is a special one. -/
  special : Option Bool := none
  /-- Functions do not count. -/
  plain : Bool := false
  path : Option String := none
  /-- Arguments can be assignments. -/
  assigns : Bool := false

namespace Callee

/-- Expands words until there is something. -/
def someFields (substitute : Substitute) : List Word → Act (List String × List Word)
  | [] => return ([], [])
  | word :: rest => do
    match ← expandWord substitute word with
    | [] => someFields substitute rest
    | fields => return (fields, rest)

/-- Expands words until there are more fields than so many. -/
def fieldsUpTo (substitute : Substitute) (n : Nat) (fields : List String) (rest : List Word) :
    Act (List String × List Word) := do
  if n < fields.length then return (fields, rest)
  else
    let (more, rest) ← someFields substitute rest
    return (fields ++ more, rest)

/-- Looks past the options of the command that runs another one: how many fields to drop, and the
search path; nothing if no other command is run. -/
def pastOptions (substitute : Substitute) :
    Nat → List String → List Word → Nat → Option String →
      Act (List String × List Word × Option (Nat × Option String))
  | 0, fields, rest, _, _ => return (fields, rest, none)
  | fuel + 1, fields, rest, n, path => do
    let (fields, rest) ← fieldsUpTo substitute n fields rest
    match (fields[n]?).map String.toList with
    | none => return (fields, rest, none)
    | some ['-', '-'] =>
      let (fields, rest) ← fieldsUpTo substitute (n + 1) fields rest
      return (fields, rest, if n + 1 < fields.length then some (n + 1, path) else none)
    | some ('-' :: c :: letters) =>
      if (c :: letters).all (· == 'p') then
        pastOptions substitute fuel fields rest (n + 1) (some Launch.defaultPath)
      else return (fields, rest, none)
    | some _ => return (fields, rest, some (n, path))

/-- Commands of the shell whose arguments can be assignments. -/
def takesAssignments (name : String) : Bool :=
  ["export", "readonly", "local", "alias"].contains name

/-- Finds out what kind of command is run. -/
def identify (substitute : Substitute) : Nat → Callee → Act Callee
  | 0, callee => return callee
  | fuel + 1, callee => do
    match callee.words with
    | [] => return callee
    | name :: others =>
      let isFunction := !callee.plain && (← scope).functions.any (·.1 == name)
      if isFunction || !Builtin.isBuiltin name then return callee
      else
        let special := callee.special.or (some (isSpecialCommand name))
        let callee := { callee with special, assigns := takesAssignments name }
        if name != "command" then return callee
        else
          let before := callee.shown.take (callee.shown.length - others.length)
          let (fields, rest, next) ← pastOptions substitute 1000 others callee.rest 0 none
          let callee := { callee with shown := before ++ fields, rest }
          match next with
          | none => return { callee with words := name :: fields }
          | some (count, path) =>
            identify substitute fuel
              { callee with
                words := fields.drop count, plain := true, path := path.or callee.path }

/-- An argument that has the form of an assignment is not divided. -/
def expandArgument (substitute : Substitute) (assigns : Bool) (word : Word) : Act (List String) := do
  match if assigns then Word.assignment? word else none with
  | some (name, value) =>
    return [name ++ "=" ++ (← expandText substitute value.homedValue)]
  | none => expandWord substitute word

/-- Expands the words of a simple command. -/
def ofWords (substitute : Substitute) (words : List Word) : Act Callee := do
  let (fields, rest) ← someFields substitute words
  let callee ← identify substitute 1000 { shown := fields, words := fields, rest }
  let more := (← callee.rest.mapM (expandArgument substitute callee.assigns)).flatten
  return { callee with shown := callee.shown ++ more, words := callee.words ++ more, rest := [] }

/-- Variables are assigned for the command only. -/
def isLocal (callee : Callee) : Bool :=
  !callee.words.isEmpty && callee.special != some true

/-- The command replaces the shell, or changes its descriptors for good. -/
def isExec (callee : Callee) : Bool :=
  callee.special.isSome && callee.words.head? == some "exec"

end Callee

/-- Carries out assignments before a command, for it only or for good; gives them as they are shown. -/
def assignAll (substitute : Substitute) (isLocal mark : Bool) :
    List (String × Word) → Act (List String)
  | [] => return []
  | (name, word) :: rest => do
    let value ← expandText substitute word
    pause (value.length / 64)
    if isLocal then Builtin.remember name
    assignVariable name value
    if isLocal || mark then putVariable name { value := some value, exported := true }
    return (name ++ "=" ++ value) :: (← assignAll substitute isLocal mark rest)

/-- Shows a command before it is run, if that is wanted, on the standard error that was there before
the command changed it. -/
def trace (substitute : Substitute) (saved : Wiring.Saved) (words : List String) : Act Unit := do
  let scope ← scope
  if scope.options.contains 'x' && !scope.tracing then
    modifyScope fun s => { s with tracing := true }
    let sign := (valueOf? scope "PS4").getD ""
    let sign ← (wordOfText sign.toList).elim (pure sign) (expandText substitute)
    modifyScope fun s => { s with tracing := false }
    match saved.lookup 2 with
    | some none => pure ()
    | kept => writeText ((kept.bind id).getD 2) (sign ++ " ".intercalate words ++ "\n")

end Crosscheck.Shell
