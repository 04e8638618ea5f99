import Crosscheck.Shell.Builtin.Lookup
import Crosscheck.Shell.Evaluator

/-! # Compound commands -/

namespace Crosscheck.Shell

open Act

/-! ## Loops -/

/-- What is being passed over after a round of a loop. -/
def skipRound : Act Skip := do
  let scope ← scope
  match scope.skip with
  | .leave | .again =>
    if scope.skipCount ≤ 1 then
      modifyScope fun s => { s with skip := .none, skipCount := 0 }
      return scope.skip
    else
      modifyScope fun s => { s with skipCount := s.skipCount - 1 }
      return .leave
  | skip => return skip

/-- Whether a loop ends after a round. -/
def endsLoop (skip : Skip) : Bool := skip != .none && skip != .again

/-- Runs a loop, which commands inside can leave. -/
def inLoop (loop : Act Nat) : Act Nat := do
  modifyScope fun s => { s with loops := s.loops + 1 }
  let status ← loop
  modifyScope fun s => { s with loops := s.loops - 1 }
  return status

namespace Evaluator

/-- Repeats a body as long as a condition succeeds, or with `negate` fails. -/
def loop (run : Evaluator) (mode : Mode) (negate : Bool) (condition body : Command) :
    Nat → Nat → Act Nat
  | 0, _ => hang
  | fuel + 1, status => do
    let tested ← run { tested := true } condition
    let skip ← skipRound
    if skip = .again then run.loop mode negate condition body fuel status
    else if skip != .none then return if skip = .finish then tested else status
    else if (tested == 0) == negate then return status
    else
      let status ← run mode body
      if endsLoop (← skipRound) then return status
      else run.loop mode negate condition body fuel status

/-- Runs a body for each of some values of a variable. -/
def each (run : Evaluator) (mode : Mode) (name : String) (body : Command) :
    List String → Nat → Act Nat
  | [], status => return status
  | value :: rest, _ => do
    assignVariable name value
    let status ← run mode body
    if endsLoop (← skipRound) then return status else run.each mode name body rest status

/-! ## Choices -/

def matchesAny (run : Evaluator) (text : List Char) : List Word → Act Bool
  | [] => return false
  | word :: rest => do
    let pattern ← expandPattern run.substitute word
    if Glob.covers pattern text then return true else run.matchesAny text rest

/-- Runs the first body that has a pattern for a text. -/
def choose (run : Evaluator) (mode : Mode) (text : List Char) : List (List Word × Command) → Act Nat
  | [] => return 0
  | (patterns, body) :: rest => do
    if ← run.matchesAny text patterns then
      match body with
      | .nothing => return 0
      | body => run mode body
    else run.choose mode text rest

/-! ## Redirections -/

/-- Carries out redirections, for good; jumps if that cannot be done. -/
def rewire (run : Evaluator) (wirings : List Wiring) : Act Unit := do
  match (← Wiring.applyAll run.substitute false [] wirings).2 with
  | some jump => throw jump
  | none => pure ()

/-- Runs a command with redirections. -/
def redirected (run : Evaluator) (mode : Mode) (body : Command) (redirects : List Redirect) :
    Act Nat := do
  let wirings ← Wiring.prepare run.substitute redirects
  let (saved, failure) ← Wiring.applyAll run.substitute true [] wirings
  let body : Act Nat :=
    match failure with
    | none => run { tested := mode.tested } body
    | some .error => do
      setStatus 2
      if !mode.tested && (← hasOption 'e') then throw .quit
      return 2
    | some jump => throw jump
  ensuring body (Wiring.restore saved)

/-! ## Processes -/

def subshell (run : Evaluator) (mode : Mode) (body : Command) (redirects : List Redirect) :
    Act Nat := do
  let wirings ← Wiring.prepare run.substitute redirects
  if mode.last && !hasTraps (← scope) then
    enterSubshell false
    run.rewire wirings
    run mode body
  else waitFor [← run.spawn mode false (run.rewire wirings) body]

def background (run : Evaluator) (command : Command) : Act Unit := do
  let (body, redirects) :=
    match command with
    | .redirected _ body redirects => (body, redirects)
    | command => (command, [])
  let wirings ← Wiring.prepare run.substitute redirects
  let arrange : Act Unit := do
    detachInput
    run.rewire wirings
  addJob [← run.spawn {} true arrange body]

/-- Remembers where the program of a stage is. -/
def rememberStage : Command → Act Unit
  | .simple _ _ (word :: _) _ => do
    match (Word.bare? word).filter isName with
    | some name =>
      let name := String.ofList name
      let scope ← scope
      match Builtin.meaningOf scope (← disk) true (Builtin.searchPath scope) name with
      | .program path => Builtin.remembered name path
      | _ => pure ()
    | none => pure ()
  | _ => return

/-- Starts the stages of a pipeline. The next of them reads from a descriptor, unless it is the
first. -/
def stages (run : Evaluator) (mode : Mode) (background : Bool) :
    Option Nat → List Command → Act (List Nat)
  | _, [] => return []
  | input, stage :: rest => do
    rememberStage stage
    let ends : Option (Nat × Nat) ← if rest.isEmpty then pure none else some <$> openPipe
    let arrange : Act Unit := do
      if background && input.isNone then detachInput
      change fun k =>
        let k := ends.elim k fun (reader, _) => k.disconnect reader
        let k := input.elim k (moveDescriptor k · 0)
        ends.elim k fun (_, writer) => moveDescriptor k writer 1
    let pid ← run.spawn mode background arrange stage
    change fun k =>
      let k := input.elim k k.disconnect
      ends.elim k fun (_, writer) => k.disconnect writer
    return pid :: (← run.stages mode background (ends.map (·.1)) rest)

def pipeline (run : Evaluator) (mode : Mode) (stages : List Command) (background : Bool) :
    Act Nat := do
  let pids ← run.stages mode background none stages
  if background then
    addJob pids
    return 0
  else waitFor pids

end Evaluator

end Crosscheck.Shell
