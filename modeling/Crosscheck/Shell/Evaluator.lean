import Crosscheck.Shell.Job
import Crosscheck.Shell.Redirection

/-! # Scripts, traps and subshells

What runs a command is a parameter here, so that what is built from it need not know how commands
are run.
-/

namespace Crosscheck.Shell

open Act

/-- How a command is run. -/
structure Mode where
  /-- The shell ends with the command. -/
  last : Bool := false
  /-- Somebody looks at the status of the command. -/
  tested : Bool := false

/-- What runs commands and gives their status. -/
abbrev Evaluator := Mode → Command → Act Nat

/-- Whether something is to be done on signals or at the end. -/
def hasTraps (scope : Scope) : Bool :=
  scope.traps.any (!·.2.isEmpty)

/-- A return has come to where it leads. -/
def finishReturn : Act Unit :=
  modifyScope fun s =>
    { s with skip := if s.skip = .finish || s.skip = .finishAsIs then .none else s.skip }

/-! ## Scripts -/

/-- A reader has come to a line. -/
def reach (line : Nat) : Act Unit :=
  modifyScope fun s => { s with reached := line :: s.reached.tail }

/-- Carries out a text inside the present one. -/
def inside {α : Type} (action : Act α) : Act α := do
  let around := (← scope).reached
  modifyScope fun s => { s with reached := 1 :: around }
  ensuring action (modifyScope fun s => { s with reached := around })

namespace Evaluator

/-- Runs a command of a script; nothing leaves the status as it is. -/
def one (run : Evaluator) (mode : Mode) (command : Command) (status : Nat) : Act Nat := do
  let result ← run mode command
  match command with
  | .nothing => return status
  | _ => return result

/-- Runs the commands of a text that are left. -/
def textFrom (run : Evaluator) (mode : Mode) : Nat → Reader → Nat → Act Nat
  | 0, _, _ => hang
  | fuel + 1, reader, status => do
    let scope ← scope
    let reader := { reader with aliases := scope.aliases, documents := scope.documents }
    match reader.next.1 with
    | .finished => return status
    | .malformed error _ =>
      modifyScope fun s => { s with line := error.line }
      giveUp error.message
    | .command command after =>
      modifyScope fun s => { s with documents := after.documents }
      reach after.line
      let status ← run.one mode command status
      if (← Act.scope).skip != .none then return status else run.textFrom mode fuel after status

/-- Runs the commands of a text. -/
def text (run : Evaluator) (mode : Mode) (text : String) : Act Nat :=
  inside (run.textFrom mode (text.length + 2) { rest := text.toList } 0)

/-- Runs the commands that a descriptor gives. More is read only when the next command needs it. -/
def inputFrom (run : Evaluator) (descriptor : Nat) : Nat → Bool → Reader → Nat → Act Nat
  | 0, _, _, _ => hang
  | fuel + 1, ended, reader, status => do
    let scope ← scope
    let reader := { reader with aliases := scope.aliases, documents := scope.documents }
    let (next, more) := reader.next
    if more && !ended then
      match ← read descriptor 8192 with
      | .bytes bytes =>
        let reader := { reader with rest := reader.rest ++ Raw.ofBytes bytes }
        run.inputFrom descriptor fuel false reader status
      | .blocked => run.inputFrom descriptor fuel false reader status
      | _ => run.inputFrom descriptor fuel true reader status
    else
      let echo (after : List Char) : Act Unit := do
        if scope.options.contains 'v' then
          writeText 2 (String.ofList (reader.rest.take (reader.rest.length - after.length)))
      match next with
      | .finished =>
        echo []
        return status
      | .malformed error after =>
        echo ((after.rest.dropWhile (· != '\n')).drop 1)
        modifyScope fun s => { s with line := error.line }
        giveUp error.message
      | .command command after =>
        echo after.rest
        modifyScope fun s => { s with documents := after.documents }
        reach after.line
        let status ← run.one {} command status
        if (← Act.scope).skip != .none then
          finishReturn
          return status
        else run.inputFrom descriptor fuel ended after status

/-- Runs the script that a descriptor gives. -/
def input (run : Evaluator) (descriptor : Nat) : Act Nat :=
  run.inputFrom descriptor patience false { rest := [] } 0

/-! ## Traps -/

/-- Does what is to be done on the signals that have come, the lowest number first. -/
def trapsFrom (run : Evaluator) (status : Nat) : Nat → Act Unit
  | 0 => hang
  | fuel + 1 => do
    let k ← kernel
    match ((k.entry? k.self).elim [] (·.noticed)).min? with
    | none => pure ()
    | some signal =>
      if (← scope).skip = .none then
        change fun k => k.updateSelf fun e => { e with noticed := e.noticed.filter (· != signal) }
        match (← scope).traps.lookup signal with
        | some action =>
          let _ ← run.text {} action
          if (← scope).skip != .finish then setStatus status
        | none => pure ()
        run.trapsFrom status fuel

/-- Does what is to be done on signals, which leaves the status as it was. -/
def traps (run : Evaluator) : Act Unit := do
  if ← interrupted then
    let before ← scope
    let status := before.final.getD before.status
    modifyScope fun s => { s with final := some status }
    run.trapsFrom status patience
    modifyScope fun s => { s with final := before.final }

end Evaluator

/-- Takes back what an interrupted script leaves behind; a status that was asked for counts. -/
def resetAfter (jump : Option Jump) : Act Unit :=
  modifyScope fun s =>
    let asked := jump = some .exit || s.skip = .finishAsIs
    { s with
      status := if asked then s.final.getD s.status else s.status
      final := none, skip := .none, loops := 0, tracing := false, commandName := none }

namespace Evaluator

/-- Ends the shell, after what is to be done at its end. -/
def leave (run : Evaluator) (jump : Option Jump) : Act Unit := do
  resetAfter jump
  modifyScope fun s => { s with final := some s.status }
  match (← scope).traps.lookup 0 with
  | none => pure ()
  | some action =>
    modifyScope fun s => { s with traps := s.traps.filter (·.1 != 0), skip := .none }
    let jump ← attempt do
      let _ ← run.text {} action
    resetAfter (jump.or (some .exit))
  Act.exit (← scope).status

end Evaluator

/-! ## Subshells -/

/-- A subshell does not take over jobs, what is to be done on signals, and the texts that are being
carried out. In the background it does
not react to the keyboard. -/
def enterSubshell (background : Bool) : Act Unit := do
  modifyScope fun s => { s with traps := s.traps.filter (·.2.isEmpty), jobs := [], reached := s.reached.drop (s.reached.length - 1) }
  change fun k => k.updateSelf fun e =>
    let ignored := if background then Signal.int :: Signal.quit :: e.ignored else e.ignored
    { e with caught := [], noticed := [], ignored }

/-- Reads from nothing. -/
def detachInput : Act Unit :=
  change fun k =>
    let (index, k) := k.addFile { endpoint := .device .null, reads := true, writes := false }
    k.connect 0 index

/-- Connects the two ends of a new pipe to descriptors of their own. -/
def openPipe : Act (Nat × Nat) := do
  if !(← kernel).hasRoom 2 then giveUp Wiring.noPipe
  step fun k =>
    let ((reader, writer), k) := k.pipe
    let low := k.freeDescriptor 0
    let k := k.connect low reader
    let high := k.freeDescriptor 0
    ((low, high), k.connect high writer)

/-- Gives a descriptor another number. -/
def moveDescriptor (k : Kernel) (source target : Nat) : Kernel :=
  match k.descriptors.lookup source with
  | some index => if source = target then k else (k.connect target index).disconnect source
  | none => k

/-- Reads all that a descriptor gives. -/
def readAll (descriptor : Nat) : Nat → List Bytes → Act Bytes
  | 0, _ => hang
  | fuel + 1, seen => do
    match ← read descriptor 65536 with
    | .bytes bytes => readAll descriptor fuel (bytes :: seen)
    | .blocked => readAll descriptor fuel seen
    | _ => return seen.reverse.flatten

/-- Waits for processes in the foreground. -/
def waitFor (pids : List Nat) : Act Nat := do
  waitForJob patience { number := ← claimNumber, processes := pids.map fun pid => (pid, none) }

namespace Evaluator

/-- Starts a shell like this one that arranges its descriptors, runs a command and ends. -/
def spawn (run : Evaluator) (mode : Mode) (background : Bool) (arrange : Act Unit) (command : Command) :
    Act Nat :=
  fork false do
    enterSubshell background
    let jump ← attempt do
      arrange
      let _ ← run { mode with last := true } command
    run.leave jump

/-- Runs a command and gives its output, without the ends of its last lines. -/
def substitute (run : Evaluator) : Substitute
  | .nothing => return []
  | command => do
    let (reader, writer) ← openPipe
    let arrange := change fun k => moveDescriptor (k.disconnect reader) writer 1
    let pid ← run.spawn {} false arrange command
    change fun k => k.disconnect writer
    let bytes ← readAll reader patience []
    change fun k => k.disconnect reader
    let status ← waitFor [pid]
    modifyScope fun s => { s with substituted := status }
    let text := (Raw.ofBytes bytes).filter (· != '\x00')
    return (text.reverse.dropWhile (· == '\n')).reverse

end Evaluator

end Crosscheck.Shell
