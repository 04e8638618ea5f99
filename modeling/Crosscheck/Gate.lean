import Crosscheck.Session
import Crosscheck.Settings

/-! # The build gate

No case runs before the build has succeeded. The build command gets one real answer in a session: a
success or a failure settles the gate for good, while a command that could not be started leaves it
as it was. A flag is up while the command is running.
-/

namespace Crosscheck

/-- The command behind the gate. -/
structure Gate where
  command : Invocation
  deriving DecidableEq, Repr

namespace Gate

def ofSettings (settings : Settings) : Gate :=
  ⟨{ program := settings.build.program, args := settings.build.args }⟩

/-- The gate of artifacts known to be current. Its command is never run, because its session starts
out built. -/
def prebuilt : Gate :=
  ⟨{ program := "true" }⟩

def failureError (failure : BuildFailure) : Error :=
  .build failure.command failure.state failure.stderr

/-- What the output of the build command settles. -/
def settle (gate : Gate) (output : Output) : Except BuildFailure Unit :=
  if output.success then .ok ()
  else
    .error ⟨gate.command.commandLine, output.state,
      String.ofList (Utf8.decodeLossy output.stderr)⟩

/-- What a settled gate says to everyone who asks. -/
def report : Except BuildFailure Unit → Except Error Unit
  | .ok () => .ok ()
  | .error failure => .error (failureError failure)

/-- Builds unless there is an outcome. The flag is down again whatever the runner says. -/
def ensureBuilt {σ : Type} (gate : Gate) (runner : Runner σ) (w : World σ) :
    Except Error Unit × World σ :=
  match w.latch.outcome with
  | some outcome => (report outcome, w)
  | none =>
    let (answer, w) :=
      World.call runner { w with latch := { w.latch with building := true } } .build gate.command
    let w := { w with latch := { w.latch with building := false } }
    match answer with
    | .error error => (.error error, w)
    | .ok output =>
      let outcome := gate.settle output
      (report outcome, { w with latch := { w.latch with outcome := some outcome } })

end Gate

end Crosscheck
