import Crosscheck.Shell.Control
import Crosscheck.Shell.Simple

/-! # Running commands

Commands contain commands, and run scripts that contain more; fuel bounds how deep that goes. A
shell that goes deeper ends like one that has used up its stack.
-/

namespace Crosscheck.Shell

open Act

namespace Evaluator

/-- Runs a command if it is wanted and nothing is being passed over. -/
def andThen (run : Evaluator) (mode : Mode) (wanted : Bool) (command : Command) :
    Act (Option Nat) := do
  if wanted && (← scope).skip = .none then return some (← run mode command) else return none

/-- Carries out a command; gives nothing if the status is to stay. -/
def carryOut (run : Evaluator) (mode : Mode) : Command → Act (Option Nat)
  | .nothing => return none
  | .simple line assignments words redirects =>
    return some (← run.simple mode line assignments words redirects)
  | .sequence first second => do
    let _ ← run { tested := mode.tested } first
    run.andThen mode true second
  | .both first second => do
    let status ← run { tested := true } first
    run.andThen mode (status == 0) second
  | .either first second => do
    let status ← run { tested := true } first
    run.andThen mode (status != 0) second
  | .negated command => do
    let status ← run { tested := true } command
    return some (if (← scope).skip != .none then status else if status = 0 then 1 else 0)
  | .background command => do
    run.background command
    return some 0
  | .pipeline stages background => return some (← run.pipeline mode stages background)
  | .subshell line body redirects => do
    modifyScope fun s => { s with line }
    return some (← run.subshell mode body redirects)
  | .redirected line body redirects => do
    modifyScope fun s => { s with line }
    return some (← run.redirected mode body redirects)
  | .branch condition yes no => do
    let status ← run { tested := true } condition
    match status, no with
    | 0, _ => run.andThen mode true yes
    | _, .nothing => return if (← scope).skip = .none then some 0 else none
    | _, no => run.andThen mode true no
  | .loop negate condition body =>
    return some (← inLoop (run.loop { tested := mode.tested } negate condition body patience 0))
  | .each line name words body => do
    modifyScope fun s => { s with line }
    let values ← expandWords run.substitute words
    return some (← inLoop (run.each { tested := mode.tested } name body values 0))
  | .choose line word arms => do
    modifyScope fun s => { s with line }
    let text ← expandText run.substitute word
    return some (← run.choose mode text.toList arms)
  | .define line name body => do
    modifyScope fun s =>
      { s with functions := (name, line, body) :: s.functions.filter (·.1 != name) }
    return some 0

/-- Commands whose failure can end the shell. -/
def endsOnFailure : Command → Bool
  | .simple .. | .subshell .. | .background .. | .pipeline .. => true
  | _ => false

/-- Runs a command between the signals that come before and after it. -/
def attended (run : Evaluator) (mode : Mode) (command : Command) : Act Nat := do
  if !(← hasOption 'n') then
    run.traps
    let status ← run.carryOut mode command
    match status with
    | some status => setStatus status
    | none => pure ()
    run.traps
    let failed := status.any (· != 0) && endsOnFailure command && !mode.tested
    if failed && (← hasOption 'e') then throw .quit
  if mode.last then throw .quit
  return (← scope).status

end Evaluator

/-- Runs commands that go as deep as there is fuel. -/
def run : Nat → Evaluator
  | 0, _, _ => do
    change fun k => (k.send Signal.segv k.self).2
    hang
  | fuel + 1, mode, command => (run fuel).attended mode command

end Crosscheck.Shell
