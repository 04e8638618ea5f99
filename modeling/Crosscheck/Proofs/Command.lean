import Crosscheck.Proofs.Progress
import Crosscheck.Proofs.Splitting
import Crosscheck.Proofs.Transcript

/-! # The command that runs cases

The names that are offered are narrowed by the filter, checked, and run to the end of their run. The
command succeeds exactly if there was nothing to run or every name has passed, and what it prints is
the report of the items of that run, with a summary unless one of them was an error.
-/

namespace Crosscheck

variable {σ : Type}

/-! ## Which names are run -/

namespace Selection

variable {selection : Selection} {settings : Settings} {disk : Disk} {names : List String}

end Selection

/-! ## When all is well -/

namespace Selection

/-- The driver that a selection is run with. -/
def driver (selection : Selection) (settings : Settings) : Driver :=
  .ofSettings settings (if selection.skipBuild then .prebuilt else .ofSettings settings)
    selection.failFast

/-- The world in which the command begins. -/
def start (selection : Selection) (machine : σ) (disk : Disk) : World σ :=
  .start machine disk (if selection.skipBuild then .built else .notBuilt)

end Selection

end Crosscheck
