import Crosscheck.Gate
import Crosscheck.Pipeline

/-! # Runs over a list of cases

A run is lazy: starting it only checks the names, and each pull of `next` takes one case through the
gate and the pipeline. An error ends the run, and with `failFast` so does the first case that does
not pass.
-/

namespace Crosscheck

/-- What is needed to run cases. -/
structure Driver where
  gate : Gate
  tools : Toolchain
  layout : Layout
  failFast : Bool := false

/-- The cases still to come, and whether the run has ended early. -/
structure Run where
  pending : List TestCase
  finished : Bool := false

namespace Driver

variable {σ : Type}

def ofSettings (settings : Settings) (gate : Gate) (failFast : Bool) : Driver where
  gate := gate
  tools := Toolchain.ofSettings settings
  layout := settings.layout
  failFast := failFast

/-- Checks the names and prepares a run over their cases. Nothing is started. -/
def runAll (driver : Driver) (names : List String) (disk : Disk) : Except Error Run :=
  match driver.layout.resolve disk names with
  | .ok cases => .ok { pending := cases }
  | .error error => .error error

/-- One case: the gate, the pipeline, and after a pass the executable is removed. -/
def runCase (driver : Driver) (runner : Runner σ) (case : TestCase) (w : World σ) :
    Except Error Outcome × World σ :=
  match driver.gate.ensureBuilt runner w with
  | (.error error, w) => (.error error, w)
  | (.ok (), w) =>
    match Pipeline.execute runner driver.tools case w with
    | (.error error, w) => (.error error, w)
    | (.ok verdict, w) =>
      if verdict.isPass then
        match w.discard case.executable with
        | (.error error, w) => (.error error, w)
        | (.ok (), w) => (.ok ⟨case.name, verdict⟩, w)
      else (.ok ⟨case.name, verdict⟩, w)

/-- Whether an item is the last one of its run. -/
def endsRun (driver : Driver) : Except Error Outcome → Bool
  | .error _ => true
  | .ok outcome => driver.failFast && !outcome.verdict.isPass

/-- Pulls the next item of a run. -/
def next (driver : Driver) (runner : Runner σ) (run : Run) (w : World σ) :
    Option (Except Error Outcome) × Run × World σ :=
  if run.finished then (none, run, w)
  else
    match run.pending with
    | [] => (none, run, w)
    | case :: rest =>
      let (item, w) := driver.runCase runner case w
      (some item, ⟨rest, driver.endsRun item⟩, w)

/-- All items of a run over the given cases, in order. -/
def drain (driver : Driver) (runner : Runner σ) :
    List TestCase → World σ → List (Except Error Outcome) × World σ
  | [], w => ([], w)
  | case :: rest, w =>
    let (item, w) := driver.runCase runner case w
    if driver.endsRun item then ([item], w)
    else
      let (items, w) := drain driver runner rest w
      (item :: items, w)

end Driver

end Crosscheck
