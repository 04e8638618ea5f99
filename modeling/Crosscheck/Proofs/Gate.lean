import Crosscheck.Gate
import Crosscheck.Proofs.World

/-! # Passing the gate

What one visit to the gate can do. A settled gate answers at once and changes nothing; any other
calls the build command once, and only a refusal leaves it unsettled. The flag is up during the call
and at no other time, so that the state of the build is what the outcome says, or nothing is built.
-/

namespace Crosscheck

variable {σ : Type}

/-- The build has been answered for good. -/
def BuildState.settled : BuildState → Bool
  | built | failed _ => true
  | notBuilt | building => false

namespace Latch

variable {latch : Latch}

theorem settled_state (latch : Latch) : latch.state.settled = latch.outcome.isSome := by
  grind [state, BuildState.settled]

theorem settled_of_none (h : latch.outcome = none) : latch.state.settled = false := by
  rw [settled_state, h]
  rfl

theorem state_eq_built_iff : latch.state = .built ↔ latch.outcome = some (.ok ()) := by
  grind [state]

theorem state_eq_failed_iff {failure : BuildFailure} :
    latch.state = .failed failure ↔ latch.outcome = some (.error failure) := by
  grind [state]

theorem state_ne_building (h : latch.building = false) : latch.state ≠ .building := by
  grind [state]

end Latch

namespace Gate

theorem ok_of_report {outcome : Except BuildFailure Unit} (h : report outcome = .ok ()) :
    outcome = .ok () := by
  cases outcome with
  | ok _ => rfl
  | error failure => cases h

/-- The ways a visit to the gate can go, and the world after it. -/
inductive Visited (gate : Gate) (runner : Runner σ) (w : World σ) :
    Except Error Unit × World σ → Prop
  | settled {outcome : Except BuildFailure Unit} (h : w.latch.outcome = some outcome) :
      Visited gate runner w (report outcome, w)
  | refused {error : Error} {w' : World σ} (h : w.latch.outcome = none)
      (hc : World.call runner { w with latch := { building := true } } .build gate.command =
        (.error error, w')) :
      Visited gate runner w (.error error, { w' with latch := .notBuilt })
  | answered {output : Output} {w' : World σ} (h : w.latch.outcome = none)
      (hc : World.call runner { w with latch := { building := true } } .build gate.command =
        (.ok output, w')) :
      Visited gate runner w (report (gate.settle output),
        { w' with latch := { outcome := some (gate.settle output) } })

theorem ensureBuilt_of_outcome (gate : Gate) (runner : Runner σ) {w : World σ}
    {outcome : Except BuildFailure Unit} (h : w.latch.outcome = some outcome) :
    gate.ensureBuilt runner w = (report outcome, w) := by
  unfold ensureBuilt
  rw [h]

theorem ensureBuilt_visited (gate : Gate) (runner : Runner σ) (w : World σ) :
    Visited gate runner w (gate.ensureBuilt runner w) := by
  cases hout : w.latch.outcome with
  | some outcome =>
    rw [gate.ensureBuilt_of_outcome runner hout]
    exact .settled hout
  | none =>
    rcases hc : World.call runner { w with latch := { building := true } } .build gate.command with
      ⟨answer, w'⟩
    have hlatch := (World.called_of_call hc).latch
    unfold ensureBuilt
    simp only [hout, hc, hlatch]
    cases answer with
    | error error => exact .refused hout hc
    | ok output => exact .answered hout hc

namespace Visited

variable {gate : Gate} {runner : Runner σ} {w : World σ} {ending : Except Error Unit × World σ}

/-- Whoever gets past the gate stands in a world that is built. -/
theorem built_of_ok (h : Visited gate runner w ending) (ho : ending.1 = .ok ()) :
    ending.2.build = .built := by
  unfold World.build
  rw [Latch.state_eq_built_iff]
  cases h with
  | settled hs =>
    rw [hs]
    exact congrArg some (ok_of_report ho)
  | refused _ _ => cases ho
  | answered _ _ => exact congrArg some (ok_of_report ho)

/-- A flag that is down is down again after the visit. -/
theorem building_eq_false (h : Visited gate runner w ending) (hdown : w.latch.building = false) :
    ending.2.latch.building = false := by
  cases h with
  | settled _ => exact hdown
  | refused _ _ => rfl
  | answered _ _ => rfl

theorem evolves (h : Visited gate runner w ending) (may : String → Prop) :
    w.Evolves runner may ending.2 := by
  have hstart : w.Evolves runner may { w with latch := { building := true } } :=
    World.Evolves.refl.relatch _
  cases h with
  | settled _ => exact .refl
  | refused _ hc => exact (hstart.call hc).relatch _
  | answered _ hc => exact (hstart.call hc).relatch _

end Visited

end Gate

end Crosscheck
