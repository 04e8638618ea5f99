import Crosscheck.Shell.Callee
import Crosscheck.Shell.Startup

/-! # Simple commands -/

namespace Crosscheck.Shell

open Act

namespace Evaluator

/-! ## Functions and commands of the shell -/

/-- How many functions can be carried out inside each other. -/
def maxCalls : Nat := 1000

def function (run : Evaluator) (mode : Mode) (body : Command) (args : List String) : Act Nat := do
  let outer ← scope
  if maxCalls ≤ outer.calls then
    giveUp ("Maximum function recursion depth (" ++ toString maxCalls ++ ") reached")
  modifyScope fun s =>
    { s with args, calls := s.calls + 1, loops := 0, optionIndex := 1, optionPlace := none }
  let restore : Act Unit := do
    modifyScope fun s =>
      { s with
        args := outer.args, calls := outer.calls, loops := outer.loops
        optionIndex := outer.optionIndex, optionPlace := outer.optionPlace }
    finishReturn
  let _ ← ensuring (run { tested := mode.tested } body) restore
  return (← scope).status

/-- Runs the commands of a file in this shell. -/
def source (run : Evaluator) : List String → Act Nat
  | [] => return 0
  | name :: _ => do
    let disk ← disk
    let path ←
      if name.toList.contains '/' then pure name
      else
        let paths := Launch.candidates (Builtin.searchPath (← scope)) name
        match paths.find? fun path => disk.isFile (Raw.toText path) with
        | some path => pure path
        | none => giveUp (name ++ ": not found")
    let descriptor ← openScript path
    modifyScope fun s => { s with commandName := some path }
    ensuring (inside (run.input descriptor)) (change fun k => k.disconnect descriptor)

/-- Carries out a command of the shell. -/
def builtin (run : Evaluator) (mode : Mode) (name : String) (args : List String) : Act Nat := do
  match name with
  | "eval" =>
    if args.isEmpty then return 0
    else run.text { tested := mode.tested } (" ".intercalate args)
  | "." => run.source (← Builtin.operands args)
  | "exec" =>
    match ← Builtin.operands args with
    | [] => return 0
    | name :: args => run.execute (Builtin.searchPath (← scope)) name args
  | name => (Builtin.find? name).elim (return 127) (· args)

/-- Carries out a command of the shell under its name. Only an error of a special command is one of
the shell. -/
def namedBuiltin (run : Evaluator) (mode : Mode) (special : Bool) (name : String) (args : List String) :
    Act Nat := do
  let outer := (← scope).commandName
  modifyScope fun s => { s with commandName := some name }
  try
    let status ← run.builtin mode name args
    modifyScope fun s => { s with commandName := outer }
    setStatus status
    return status
  catch jump =>
    modifyScope fun s => { s with commandName := outer }
    if jump = .error && !special then return (← scope).status else throw jump

/-! ## Calls -/

/-- Runs a program, in a process of its own unless the shell ends with it. -/
def program (run : Evaluator) (mode : Mode) (path name : String) (args : List String) : Act Nat := do
  if mode.last && !hasTraps (← scope) then run.execute path name args
  else
    let pid ← fork true do
      enterSubshell false
      let _ ← attempt do
        let _ ← run.execute path name args
      Act.exit (← scope).status
    waitFor [pid]

/-- Runs what the words of a simple command stand for. -/
def call (run : Evaluator) (mode : Mode) (callee : Callee) : Act Nat := do
  match callee.words with
  | [] => return (← scope).substituted
  | name :: args =>
    let scope ← scope
    let path := callee.path.getD (Builtin.searchPath scope)
    match Builtin.meaningOf scope (← disk) (!callee.plain) path name with
    | .function _ body => run.function mode body args
    | .builtin => run.namedBuiltin mode (callee.special.getD false) name args
    | .missing fault =>
      complain (name ++ ": " ++ launchFault fault)
      return 127
    | .program found =>
      Builtin.remembered name found
      run.program mode path name args

/-- Redirects, assigns and calls. -/
def wired (run : Evaluator) (mode : Mode) (callee : Callee) (assignments : List (String × Word))
    (redirects : List Redirect) : Act Nat := do
  let wirings ← Wiring.prepare run.substitute redirects
  let (saved, failure) ← Wiring.applyAll run.substitute true [] wirings
  let body : Act Nat := do
    match failure with
    | some .error =>
      setStatus 2
      if callee.special == some true then throw .error
      return 2
    | some jump => throw jump
    | none =>
      let mark := callee.isExec && 1 < callee.words.length
      let assigned ← assignAll run.substitute callee.isLocal mark assignments
      trace run.substitute saved (assigned ++ callee.shown)
      run.call mode callee
  let status ← tryCatch body fun jump => do
    Wiring.restore saved
    throw jump
  if callee.isExec && failure.isNone then Wiring.settle saved else Wiring.restore saved
  return status

def simple (run : Evaluator) (mode : Mode) (line : Nat) (assignments : List (String × Word))
    (words : List Word) (redirects : List Redirect) : Act Nat := do
  pause stepTime
  modifyScope fun s => { s with line, substituted := 0 }
  let callee ← Callee.ofWords run.substitute words
  let body := run.wired mode callee assignments redirects
  if callee.isLocal then
    modifyScope fun s => { s with locals := [] :: s.locals }
    ensuring body Builtin.restoreLocals
  else body

end Evaluator

end Crosscheck.Shell
