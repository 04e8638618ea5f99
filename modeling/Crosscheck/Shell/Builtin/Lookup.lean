import Crosscheck.Shell.Builtin
import Crosscheck.Shell.Launch

/-! # Commands about names

What a name stands for: a keyword, an alias, a function, a command of the shell or a program.
-/

namespace Crosscheck.Shell.Builtin

open Act

/-- The commands of the shell besides those that are special. -/
def ordinaryNames : List String :=
  ["[", "alias", "bg", "cd", "chdir", "command", "echo", "false", "fg", "getopts", "hash", "jobs", "kill",
    "printf", "pwd", "read", "test", "true", "type", "ulimit", "umask", "unalias", "wait"]

def isBuiltin (name : String) : Bool :=
  isSpecialCommand name || ordinaryNames.contains name

/-- What a name stands for when it is called. -/
inductive Meaning where
  | function (line : Nat) (body : Command)
  | builtin
  | program (path : String)
  | missing (fault : Fault)

def searchPath (scope : Scope) : String :=
  (valueOf? scope "PATH").getD Launch.defaultPath

/-- What a name stands for; functions can be left out. -/
def meaningOf (scope : Scope) (disk : Disk) (functions : Bool) (path name : String) : Meaning :=
  match if functions then scope.functions.lookup name else none with
  | some (line, body) => .function line body
  | none =>
    if isBuiltin name then .builtin
    else if name.toList.contains '/' then .program name
    else
      match Launch.find disk path name with
      | .ok path => .program path
      | .error fault => .missing fault

/-- Remembers where a program was found. -/
def remembered (name path : String) : Act Unit :=
  if name.toList.contains '/' then pure ()
  else
    modifyScope fun s =>
      if s.hashed.any (·.1 == name) then s else { s with hashed := s.hashed ++ [(name, path)] }

/-! ## Order of tables -/

/-- The place of a name in a table with so many buckets. -/
def bucket (size : Nat) (name : String) : Nat :=
  let codes := name.toList.map Char.toNat
  codes.foldl (· + ·) (codes.headD 0 * 16) % size

/-- Entries in the order of a table. -/
def inTableOrder {α : Type} (size : Nat) (entries : List (String × α)) : List (String × α) :=
  entries.mergeSort fun a b => decide (bucket size a.1 ≤ bucket size b.1)

/-! ## Describing -/

/-- Tells what a name stands for, in a sentence or so that it can be used. -/
def describe (verbose : Bool) (path : Option String) (name : String) : Act (String × Nat) := do
  let scope ← scope
  let disk ← disk
  let line (sentence short : String) : String :=
    (if verbose then name ++ sentence else short) ++ "\n"
  if keywords.contains name then return (line " is a shell keyword" name, 0)
  else
    match scope.aliases.lookup name with
    | some value =>
      return (line (" is an alias for " ++ value) ("alias " ++ name ++ "=" ++ quoted value), 0)
    | none =>
      match meaningOf scope disk true (path.getD (searchPath scope)) name with
      | .function _ _ => return (line " is a shell function" name, 0)
      | .builtin =>
        let kind := if isSpecialCommand name then "special " else ""
        return (line (" is a " ++ kind ++ "shell builtin") name, 0)
      | .program found =>
        let isThere := (← view).pathExists (Raw.toText name)
        if !name.toList.contains '/' || isThere then
          if path.isNone then remembered name found
          let tracked := path.isNone && scope.hashed.any (·.1 == name)
          return (line (" is" ++ (if tracked then " a tracked alias for " else " ") ++ found) found, 0)
        else return (if verbose then name ++ ": not found\n" else "", 127)
      | .missing _ => return (if verbose then name ++ ": not found\n" else "", 127)

def type (args : List String) : Act Nat := do
  let results ← args.mapM (describe true none)
  let status := results.foldl (fun status r => status ||| r.2) 0
  emit status (String.join (results.map (·.1))).toList

/-- The command that runs others, when it is only asked about them. -/
def command (args : List String) : Act Nat := do
  let (letters, words) ← options ['p', 'v', 'V'] [] args
  let verbose := letters.any (·.1 == 'V')
  let path := if letters.any (·.1 == 'p') then some Launch.defaultPath else none
  match words with
  | word :: _ =>
    if verbose || letters.any (·.1 == 'v') then
      let (text, status) ← describe verbose path word
      emit status text.toList
    else return 0
  | [] => return 0

def hash (args : List String) : Act Nat := do
  let (letters, words) ← options ['r'] [] args
  if !letters.isEmpty then
    modifyScope fun s => { s with hashed := [] }
    return 0
  else if words.isEmpty then
    let lines := (inTableOrder 31 (← scope).hashed).map fun (_, path) => path ++ "\n"
    emit 0 (String.join lines).toList
  else
    let mut status := 0
    for word in words do
      let scope ← scope
      match meaningOf scope (← disk) true (searchPath scope) word with
      | .program path => remembered word path
      | .missing fault =>
        complain (word ++ ": "
          ++ if fault = .notFound || fault = .notDirectory then "not found" else fault.text)
        status := 1
      | _ => pure ()
    return status

/-! ## Aliases -/

def aliasLine (name value : String) : String :=
  name ++ "=" ++ quoted value ++ "\n"

def setAliases : List String → List String → Nat → Act Nat
  | [], lines, status => emit status (String.join lines.reverse).toList
  | word :: rest, lines, status => do
    let chars := word.toList
    let tail := chars.tail.takeWhile (· != '=')
    let name := String.ofList (chars.take 1 ++ tail)
    if name.length < word.length then
      let value := String.ofList (chars.drop (name.length + 1))
      modifyScope fun s =>
        { s with
          aliases :=
            if s.aliases.any (·.1 == name) then
              s.aliases.map fun a => if a.1 = name then (name, value) else a
            else s.aliases ++ [(name, value)] }
      setAliases rest lines status
    else
      match (← scope).aliases.lookup word with
      | some value => setAliases rest (aliasLine word value :: lines) status
      | none =>
        writeText 2 ("alias: " ++ word ++ " not found\n")
        setAliases rest lines 1

def setAlias (args : List String) : Act Nat := do
  if args.isEmpty then
    let lines := (inTableOrder 39 (← scope).aliases).map fun (name, value) => aliasLine name value
    emit 0 (String.join lines).toList
  else setAliases args [] 0

def unalias (args : List String) : Act Nat := do
  let (letters, words) ← options ['a'] [] args
  if !letters.isEmpty then
    modifyScope fun s => { s with aliases := [] }
    return 0
  else
    let mut status := 0
    for word in words do
      if (← scope).aliases.any (·.1 == word) then
        modifyScope fun s => { s with aliases := s.aliases.filter (·.1 != word) }
      else
        writeText 2 ("unalias: " ++ word ++ " not found\n")
        status := 1
    return status

end Crosscheck.Shell.Builtin
