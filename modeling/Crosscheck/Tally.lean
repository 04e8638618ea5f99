import Crosscheck.Verdict

/-! # Counting outcomes -/

namespace Crosscheck

/-- How many cases passed and failed, and the failures by kind in the order they were first seen. -/
structure Tally where
  passed : Nat := 0
  failed : Nat := 0
  byKind : List (Kind × Nat) := []
  deriving DecidableEq, Repr

namespace Tally

/-- One more of a kind. -/
def bump (kind : Kind) : List (Kind × Nat) → List (Kind × Nat)
  | [] => [(kind, 1)]
  | (k, n) :: rest => if k = kind then (k, n + 1) :: rest else (k, n) :: bump kind rest

def record (tally : Tally) (verdict : Verdict) : Tally :=
  if verdict.isPass then { tally with passed := tally.passed + 1 }
  else
    { tally with
      failed := tally.failed + 1
      byKind := bump verdict.kind tally.byKind }

def ofVerdicts (verdicts : List Verdict) : Tally :=
  verdicts.foldl record {}

def hasFailures (tally : Tally) : Bool :=
  tally.failed > 0

def total (tally : Tally) : Nat :=
  tally.passed + tally.failed

/-- The share of passes in percent, as a double-precision number. -/
def successRate (tally : Tally) : Float :=
  if tally.total = 0 then 0
  else Float.ofNat tally.passed / Float.ofNat tally.total * 100

end Tally

end Crosscheck
