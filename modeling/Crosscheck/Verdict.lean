import Crosscheck.Process

/-! # Verdicts

What a test case showed: both programs agree, their outputs differ, or one of the four processes on
the way did not do its part.
-/

namespace Crosscheck

/-- The processes that a case runs, in order. -/
inductive Step where
  | reference
  | compile
  | link
  | execute
  deriving DecidableEq, Repr

def Step.name : Step → String
  | reference => "reference"
  | compile => "compile"
  | link => "link"
  | execute => "execute"

/-- The stages of a case: its processes, and the comparison of their outputs. -/
inductive Stage where
  | process (step : Step)
  | compare
  deriving DecidableEq, Repr

def Stage.name : Stage → String
  | process step => step.name
  | compare => "compare"

/-- A stage that ran and failed. -/
structure StageFailure where
  stage : Stage
  command : String
  state : ExitState
  /-- Shown to the reader; it never decides anything. -/
  stderr : Bytes
  /-- Given when the process exited cleanly but broke its contract. -/
  reason : Option String := none
  deriving DecidableEq, Repr

def StageFailure.message (failure : StageFailure) : String :=
  let said := failure.stage.name ++ " stage: `" ++ failure.command ++ "` " ++ failure.state.message
  match failure.reason with
  | none => said
  | some reason => said ++ " (" ++ reason ++ ")"

/-- The names under which outcomes are counted. -/
inductive Kind where
  | pass
  | referenceExecutionError
  | compilationError
  | linkError
  | executionError
  | outputMismatch
  deriving DecidableEq, Repr

def Kind.name : Kind → String
  | pass => "Pass"
  | referenceExecutionError => "ReferenceExecutionError"
  | compilationError => "CompilationError"
  | linkError => "LinkError"
  | executionError => "ExecutionError"
  | outputMismatch => "OutputMismatch"

/-- The kind of a case that a process has ended. -/
def Step.kind : Step → Kind
  | reference => .referenceExecutionError
  | compile => .compilationError
  | link => .linkError
  | execute => .executionError

inductive Verdict where
  | pass
  | failed (step : Step) (failure : StageFailure)
  | mismatch (expected actual : Bytes)
  deriving DecidableEq, Repr

namespace Verdict

def kind : Verdict → Kind
  | pass => .pass
  | failed step _ => step.kind
  | mismatch _ _ => .outputMismatch

def isPass : Verdict → Bool
  | pass => true
  | _ => false

def failure? : Verdict → Option StageFailure
  | failed _ failure => some failure
  | _ => none

/-- The stage that stopped the case. -/
def failedStage? : Verdict → Option Stage
  | pass => none
  | failed _ failure => some failure.stage
  | mismatch _ _ => some .compare

end Verdict

/-- A case with its verdict. -/
structure Outcome where
  name : String
  verdict : Verdict
  deriving DecidableEq, Repr

end Crosscheck
