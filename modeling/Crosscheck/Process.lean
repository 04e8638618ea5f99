import Crosscheck.Text.Utf8

/-! # External processes

What is asked of a process (`Invocation`) and what comes back (`Output`).
-/

namespace Crosscheck

/-- How a process ended. -/
inductive ExitState where
  | exited (code : Int)
  | signaled (signal : Int)
  /-- Killed because its time was up. -/
  | timedOut
  deriving DecidableEq, Repr

namespace ExitState

def success (state : ExitState) : Bool :=
  state == .exited 0

def message : ExitState → String
  | .exited code => "exited with status " ++ toString code
  | .signaled signal => "terminated by signal " ++ toString signal
  | .timedOut => "timed out"

end ExitState

/-- A process to run. Without a time limit it is waited for however long it takes; of each output
stream only `outputLimit` bytes are kept. -/
structure Invocation where
  program : String
  args : List String := []
  stdin : Option String := none
  /-- In milliseconds. -/
  timeout : Option Nat := none
  outputLimit : Nat := 16 * 1024 * 1024
  deriving DecidableEq, Repr

/-- The invocation as one would type it. -/
def Invocation.commandLine (invocation : Invocation) : String :=
  let words := invocation.args.foldl (fun line arg => line ++ " " ++ arg) invocation.program
  match invocation.stdin with
  | none => words
  | some path => words ++ " < " ++ path

/-- What a finished process left behind. A stream is cut when it went past the output limit. -/
structure Output where
  state : ExitState
  stdout : Bytes := []
  stderr : Bytes := []
  stdoutCut : Bool := false
  stderrCut : Bool := false
  deriving DecidableEq, Repr

def Output.success (output : Output) : Bool :=
  output.state.success

end Crosscheck
