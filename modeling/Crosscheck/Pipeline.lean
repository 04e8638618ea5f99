import Crosscheck.Corpus
import Crosscheck.Session
import Crosscheck.Verdict

/-! # The pipeline of a test case

The reference interpreter runs the program, the compiler turns it into IR, the linker makes an
executable of that, the executable runs, and the two outputs are compared byte for byte. The first
stage that fails ends the case.
-/

namespace Crosscheck

/-- The tools and bounds shared by all cases of a session. -/
structure Toolchain where
  compiler : String
  runtimeArchive : String
  reference : Tool
  linker : Tool
  /-- In milliseconds. -/
  timeout : Option Nat
  outputLimit : Nat
  deriving DecidableEq, Repr

namespace Toolchain

def ofSettings (settings : Settings) : Toolchain where
  compiler := settings.compiler
  runtimeArchive := settings.runtimeArchive
  reference := settings.reference
  linker := settings.linker
  timeout := settings.timeout?.map (· * 1000)
  outputLimit := settings.maxOutputBytes

/-- What is run for a step of a case. Only the reference reads the source as its input. -/
def invocation (tools : Toolchain) (case : TestCase) : Step → Invocation
  | .reference =>
    { program := tools.reference.program
      args := tools.reference.args
      stdin := some case.source
      timeout := tools.timeout
      outputLimit := tools.outputLimit }
  | .compile =>
    { program := tools.compiler
      args := [case.source]
      timeout := tools.timeout
      outputLimit := tools.outputLimit }
  | .link =>
    { program := tools.linker.program
      args := tools.linker.args ++ [case.ir, tools.runtimeArchive, "-o", case.executable]
      timeout := tools.timeout
      outputLimit := tools.outputLimit }
  | .execute =>
    { program := Path.direct case.executable
      timeout := tools.timeout
      outputLimit := tools.outputLimit }

end Toolchain

namespace Pipeline

/-- The failure of a step that gave this output. -/
def failureOf (tools : Toolchain) (case : TestCase) (step : Step) (output : Output)
    (reason : Option String) : StageFailure where
  stage := .process step
  command := (tools.invocation case step).commandLine
  state := output.state
  stderr := output.stderr
  reason := reason

/-- Output that was cut cannot be compared. -/
def overflowReason (tools : Toolchain) : String :=
  "stdout exceeded " ++ toString tools.outputLimit ++ " bytes"

/-- Why a step that must deliver complete output is not accepted. -/
def rejectOutput (tools : Toolchain) (case : TestCase) (step : Step) (output : Output) :
    Option StageFailure :=
  if output.success = false then some (failureOf tools case step output none)
  else if output.stdoutCut then
    some (failureOf tools case step output (some (overflowReason tools)))
  else none

variable {σ : Type}

/-- Hands a step of a case to the runner. -/
def callStep (runner : Runner σ) (tools : Toolchain) (case : TestCase) (step : Step)
    (w : World σ) : Except Error Output × World σ :=
  w.call runner (.stage case step) (tools.invocation case step)

/-- The executable runs and its output is compared with the expected one. -/
def runExecute (runner : Runner σ) (tools : Toolchain) (case : TestCase) (expected : Bytes)
    (w : World σ) : Except Error Verdict × World σ :=
  match callStep runner tools case .execute w with
  | (.error error, w) => (.error error, w)
  | (.ok output, w) =>
    match rejectOutput tools case .execute output with
    | some failure => (.ok (.failed .execute failure), w)
    | none =>
      if expected = output.stdout then (.ok .pass, w)
      else (.ok (.mismatch expected output.stdout), w)

def runLink (runner : Runner σ) (tools : Toolchain) (case : TestCase) (expected : Bytes)
    (w : World σ) : Except Error Verdict × World σ :=
  match callStep runner tools case .link w with
  | (.error error, w) => (.error error, w)
  | (.ok output, w) =>
    if output.success = false then (.ok (.failed .link (failureOf tools case .link output none)), w)
    else runExecute runner tools case expected w

/-- An IR file left over from before must not stand in for one that this compilation failed to
write, so it is removed first and looked for afterwards. -/
def runCompile (runner : Runner σ) (tools : Toolchain) (case : TestCase) (expected : Bytes)
    (w : World σ) : Except Error Verdict × World σ :=
  match w.discard case.ir with
  | (.error error, w) => (.error error, w)
  | (.ok (), w) =>
    match callStep runner tools case .compile w with
    | (.error error, w) => (.error error, w)
    | (.ok output, w) =>
      if output.success = false then
        (.ok (.failed .compile (failureOf tools case .compile output none)), w)
      else if w.disk.pathExists case.ir then runLink runner tools case expected w
      else
        (.ok (.failed .compile (failureOf tools case .compile output
          (some ("no IR artifact at " ++ case.ir)))), w)

/-- Runs a case through all stages. An error means that the harness could not do its work; whatever
the programs under test do is a verdict. -/
def execute (runner : Runner σ) (tools : Toolchain) (case : TestCase) (w : World σ) :
    Except Error Verdict × World σ :=
  match callStep runner tools case .reference w with
  | (.error error, w) => (.error error, w)
  | (.ok output, w) =>
    match rejectOutput tools case .reference output with
    | some failure => (.ok (.failed .reference failure), w)
    | none => runCompile runner tools case output.stdout w

end Pipeline

end Crosscheck
