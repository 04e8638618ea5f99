import Crosscheck.Run
import Crosscheck.Proofs.Corpus
import Crosscheck.Proofs.Gate
import Crosscheck.Proofs.Pipeline.Trace

/-! # What a pull can do

`Handled` lists the ways a case can end, with the world each of them leaves behind, and `Pulled` the
ways a pull can go. What holds of all of them holds of every run.
-/

namespace Crosscheck.Driver

variable {σ : Type}

theorem runAll_eq_ok_iff {driver : Driver} {names : List String} {disk : Disk} {run : Run} :
    driver.runAll names disk = .ok run ↔
      names.Nodup ∧ (∀ name ∈ names, disk.isFile (driver.layout.testCase name).source = true) ∧
        run = ⟨names.map driver.layout.testCase, false⟩ := by
  unfold runAll
  cases hcases : driver.layout.resolve disk names with
  | error error =>
    constructor
    · intro h
      cases h
    · rintro ⟨hnodup, hsources, -⟩
      rw [Layout.resolve_eq_ok_iff.mpr ⟨hnodup, hsources, rfl⟩] at hcases
      cases hcases
  | ok cases =>
    obtain ⟨hnodup, hsources, rfl⟩ := Layout.resolve_eq_ok_iff.mp hcases
    constructor
    · intro h
      cases h
      exact ⟨hnodup, hsources, rfl⟩
    · rintro ⟨-, -, rfl⟩
      rfl

/-- The ways a case can go through the gate, the pipeline and the removal of its executable. -/
inductive Handled (driver : Driver) (runner : Runner σ) (case : TestCase) (w : World σ) :
    Except Error Outcome × World σ → Prop
  | refused {error : Error} {w₁ : World σ}
      (hg : driver.gate.ensureBuilt runner w = (.error error, w₁)) :
      Handled driver runner case w (.error error, w₁)
  | stopped {error : Error} {w₁ w₂ : World σ}
      (hg : driver.gate.ensureBuilt runner w = (.ok (), w₁))
      (hx : Pipeline.execute runner driver.tools case w₁ = (.error error, w₂)) :
      Handled driver runner case w (.error error, w₂)
  | failed {verdict : Verdict} {w₁ w₂ : World σ}
      (hg : driver.gate.ensureBuilt runner w = (.ok (), w₁))
      (hx : Pipeline.execute runner driver.tools case w₁ = (.ok verdict, w₂))
      (hv : verdict.isPass = false) :
      Handled driver runner case w (.ok ⟨case.name, verdict⟩, w₂)
  | stuck {error : Error} {verdict : Verdict} {w₁ w₂ w₃ : World σ}
      (hg : driver.gate.ensureBuilt runner w = (.ok (), w₁))
      (hx : Pipeline.execute runner driver.tools case w₁ = (.ok verdict, w₂))
      (hv : verdict.isPass = true) (hd : w₂.discard case.executable = (.error error, w₃)) :
      Handled driver runner case w (.error error, w₃)
  | passed {verdict : Verdict} {w₁ w₂ w₃ : World σ}
      (hg : driver.gate.ensureBuilt runner w = (.ok (), w₁))
      (hx : Pipeline.execute runner driver.tools case w₁ = (.ok verdict, w₂))
      (hv : verdict.isPass = true) (hd : w₂.discard case.executable = (.ok (), w₃)) :
      Handled driver runner case w (.ok ⟨case.name, verdict⟩, w₃)

theorem runCase_handled (driver : Driver) (runner : Runner σ) (case : TestCase) (w : World σ) :
    Handled driver runner case w (driver.runCase runner case w) := by
  unfold runCase
  rcases hg : driver.gate.ensureBuilt runner w with ⟨passed, w₁⟩
  cases passed with
  | error error => exact .refused hg
  | ok _ =>
    simp only
    rcases hx : Pipeline.execute runner driver.tools case w₁ with ⟨result, w₂⟩
    cases result with
    | error error => exact .stopped hg hx
    | ok verdict =>
      simp only
      cases hv : verdict.isPass with
      | false => exact .failed hg hx hv
      | true =>
        simp only [if_true]
        rcases hd : w₂.discard case.executable with ⟨removed, w₃⟩
        cases removed with
        | error error => exact .stuck hg hx hv hd
        | ok _ => exact .passed hg hx hv hd

/-- A pull finds the run over, or it takes the next case. -/
inductive Pulled (driver : Driver) (runner : Runner σ) (run : Run) (w : World σ) :
    Option (Except Error Outcome) × Run × World σ → Prop
  | ended (h : run.finished = true ∨ run.pending = []) : Pulled driver runner run w (none, run, w)
  | took {case : TestCase} {rest : List TestCase} {item : Except Error Outcome} {w' : World σ}
      (hf : run.finished = false) (hp : run.pending = case :: rest)
      (hc : driver.runCase runner case w = (item, w')) :
      Pulled driver runner run w (some item, ⟨rest, driver.endsRun item⟩, w')

theorem next_pulled (driver : Driver) (runner : Runner σ) (run : Run) (w : World σ) :
    Pulled driver runner run w (driver.next runner run w) := by
  unfold next
  split
  · next hf => exact .ended (.inl hf)
  · next hf =>
    split
    · next hp => exact .ended (.inr hp)
    · next case rest hp => exact .took (by simpa using hf) hp rfl

end Crosscheck.Driver
