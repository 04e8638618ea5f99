import Crosscheck.Corpus
import Crosscheck.Verdict

/-! # Sessions

Every process the harness needs is run by a `Runner`, which answers invocations and may change its
own state and the disk while doing so. The only thing the harness does to the disk itself is to
remove a file. A `World` is what a session is made of at one moment: the runner's state, the disk,
the latch of the gate, the journal of all calls so far and the list of all removals so far.
-/

namespace Crosscheck

/-- A way to run processes. It is a function of its own state, the disk and the invocation. -/
structure Runner (σ : Type) where
  run : σ → Disk → Invocation → Except Error Output × σ × Disk

/-- Why a build was turned down. -/
structure BuildFailure where
  command : String
  state : ExitState
  stderr : String
  deriving DecidableEq, Repr

/-- What can be seen of the build that all cases wait for. -/
inductive BuildState where
  | notBuilt
  | building
  | built
  | failed (failure : BuildFailure)
  deriving DecidableEq, Repr

/-- What the gate remembers: whether its command is running, and what came of it, once it has got an
answer. -/
structure Latch where
  building : Bool := false
  outcome : Option (Except BuildFailure Unit) := none
  deriving Repr

namespace Latch

def notBuilt : Latch := {}

def built : Latch := { outcome := some (.ok ()) }

/-- The flag is looked at only as long as there is no outcome. -/
def state (latch : Latch) : BuildState :=
  match latch.outcome with
  | none => if latch.building then .building else .notBuilt
  | some (.ok ()) => .built
  | some (.error failure) => .failed failure

end Latch

/-- What a process is run for. -/
inductive Purpose where
  | build
  | stage (case : TestCase) (step : Step)
  deriving DecidableEq, Repr

/-- One call of the runner: what was asked, and what for, while the build was in which state, what
was answered, and the disk before and after. -/
structure Call where
  purpose : Purpose
  invocation : Invocation
  build : BuildState
  before : Disk
  answer : Except Error Output
  after : Disk

/-- One attempt to remove a file that may be there, and the disk before it. -/
structure Removal where
  path : String
  before : Disk

namespace Removal

/-- How the attempt ends. A file that is not there is fine. -/
def outcome (removal : Removal) : Except Error Unit :=
  match removal.before.unlink removal.path with
  | .ok _ | .error .notFound => .ok ()
  | .error fault => .error (.io removal.path "cannot remove artifact" fault.message)

/-- The disk after the attempt. -/
def after (removal : Removal) : Disk :=
  match removal.before.unlink removal.path with
  | .ok disk => disk
  | .error _ => removal.before

end Removal

structure World (σ : Type) where
  machine : σ
  disk : Disk
  latch : Latch
  journal : List Call
  removals : List Removal

namespace World

/-- A session before its first call. -/
def start {σ : Type} (machine : σ) (disk : Disk) (latch : Latch) : World σ :=
  ⟨machine, disk, latch, [], []⟩

/-- The state of the build. -/
def build {σ : Type} (w : World σ) : BuildState :=
  w.latch.state

/-- Hands an invocation to the runner and notes the call. -/
def call {σ : Type} (runner : Runner σ) (w : World σ) (purpose : Purpose)
    (invocation : Invocation) : Except Error Output × World σ :=
  let (answer, machine, disk) := runner.run w.machine w.disk invocation
  (answer,
    { w with
      machine := machine
      disk := disk
      journal := w.journal ++ [⟨purpose, invocation, w.build, w.disk, answer, disk⟩] })

/-- Removes a file that may be there and notes the removal. -/
def discard {σ : Type} (w : World σ) (path : String) : Except Error Unit × World σ :=
  let removal : Removal := ⟨path, w.disk⟩
  (removal.outcome, { w with disk := removal.after, removals := w.removals ++ [removal] })

end World

/-! ## Scripted answers -/

/-- A prepared answer: changes to the disk, then a refusal or an output. -/
structure Reply where
  changes : List Change := []
  answer : Invocation → Except Error Output

def cannotSpawn (invocation : Invocation) (cause : String) : Error :=
  .spawn invocation.program cause

/-- Answers invocations from a list of replies; with none left nothing can be started. -/
def Runner.scripted : Runner (List Reply) where
  run replies disk invocation :=
    match replies with
    | [] => (.error (cannotSpawn invocation Fault.notFound.message), [], disk)
    | reply :: rest => (reply.answer invocation, rest, disk.applyAll reply.changes)

end Crosscheck
