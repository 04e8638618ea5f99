import Crosscheck.Proofs.History
import Crosscheck.Proofs.Pipeline.Comparison

/-! # The course of a case

The ways each stage of the pipeline can go, with the events of that stage and of all that follow it.
Whatever else is said about the events of a case is read off these.
-/

namespace Crosscheck.Pipeline

variable {σ : Type} (runner : Runner σ) (tools : Toolchain) (case : TestCase)

/-- The call that a step was, if it was called in the first of the worlds and left the second. -/
def stepEvent (step : Step) (w : World σ) (answer : Except Error Output) (w' : World σ) : Event :=
  .call (stepCall tools case w.build step w.disk answer w'.disk)

/-- The executable runs, and what it writes is judged. -/
inductive Executing (expected : Bytes) (w : World σ) :
    List Event → Except Error Verdict × World σ → Prop
  | refused {error : Error} {w' : World σ}
      (hc : callStep runner tools case .execute w = (.error error, w')) :
      Executing expected w [stepEvent tools case .execute w (.error error) w'] (.error error, w')
  | rejected {output : Output} {failure : StageFailure} {w' : World σ}
      (hc : callStep runner tools case .execute w = (.ok output, w'))
      (hr : rejectOutput tools case .execute output = some failure) :
      Executing expected w [stepEvent tools case .execute w (.ok output) w']
        (.ok (.failed .execute failure), w')
  | judged {output : Output} {w' : World σ}
      (hc : callStep runner tools case .execute w = (.ok output, w'))
      (hr : rejectOutput tools case .execute output = none) :
      Executing expected w [stepEvent tools case .execute w (.ok output) w']
        (.ok (judge expected output.stdout), w')

/-- The executable is linked, and if that went well it is run. -/
inductive Linking (expected : Bytes) (w : World σ) :
    List Event → Except Error Verdict × World σ → Prop
  | refused {error : Error} {w' : World σ}
      (hc : callStep runner tools case .link w = (.error error, w')) :
      Linking expected w [stepEvent tools case .link w (.error error) w'] (.error error, w')
  | failed {output : Output} {w' : World σ}
      (hc : callStep runner tools case .link w = (.ok output, w'))
      (hs : output.state ≠ .exited 0) :
      Linking expected w [stepEvent tools case .link w (.ok output) w']
        (.ok (.failed .link (failureOf tools case .link output none)), w')
  | linked {output : Output} {w' : World σ} {events : List Event}
      {ending : Except Error Verdict × World σ}
      (hc : callStep runner tools case .link w = (.ok output, w'))
      (hs : output.state = .exited 0) (h : Executing runner tools case expected w' events ending) :
      Linking expected w (stepEvent tools case .link w (.ok output) w' :: events) ending

/-- Old IR is removed, the program is compiled, and if there is IR then it is linked. -/
inductive Compiling (expected : Bytes) (w : World σ) :
    List Event → Except Error Verdict × World σ → Prop
  | stuck {error : Error} {w₁ : World σ} (hd : w.discard case.ir = (.error error, w₁)) :
      Compiling expected w [.removal ⟨case.ir, w.disk⟩] (.error error, w₁)
  | refused {error : Error} {w₁ w' : World σ} (hd : w.discard case.ir = (.ok (), w₁))
      (hc : callStep runner tools case .compile w₁ = (.error error, w')) :
      Compiling expected w
        [.removal ⟨case.ir, w.disk⟩, stepEvent tools case .compile w₁ (.error error) w']
        (.error error, w')
  | failed {output : Output} {w₁ w' : World σ} (hd : w.discard case.ir = (.ok (), w₁))
      (hc : callStep runner tools case .compile w₁ = (.ok output, w'))
      (hs : output.state ≠ .exited 0) :
      Compiling expected w
        [.removal ⟨case.ir, w.disk⟩, stepEvent tools case .compile w₁ (.ok output) w']
        (.ok (.failed .compile (failureOf tools case .compile output none)), w')
  | missing {output : Output} {w₁ w' : World σ} (hd : w.discard case.ir = (.ok (), w₁))
      (hc : callStep runner tools case .compile w₁ = (.ok output, w'))
      (hs : output.state = .exited 0) (hir : w'.disk.pathExists case.ir = false) :
      Compiling expected w
        [.removal ⟨case.ir, w.disk⟩, stepEvent tools case .compile w₁ (.ok output) w']
        (.ok (.failed .compile (failureOf tools case .compile output
          (some ("no IR artifact at " ++ case.ir)))), w')
  | compiled {output : Output} {w₁ w' : World σ} {events : List Event}
      {ending : Except Error Verdict × World σ} (hd : w.discard case.ir = (.ok (), w₁))
      (hc : callStep runner tools case .compile w₁ = (.ok output, w'))
      (hs : output.state = .exited 0) (hir : w'.disk.pathExists case.ir = true)
      (h : Linking runner tools case expected w' events ending) :
      Compiling expected w
        (.removal ⟨case.ir, w.disk⟩ :: stepEvent tools case .compile w₁ (.ok output) w' :: events)
        ending

/-- The reference runs, and if its output is accepted then the program is compiled. -/
inductive Interpreting (w : World σ) : List Event → Except Error Verdict × World σ → Prop
  | refused {error : Error} {w' : World σ}
      (hc : callStep runner tools case .reference w = (.error error, w')) :
      Interpreting w [stepEvent tools case .reference w (.error error) w'] (.error error, w')
  | rejected {output : Output} {failure : StageFailure} {w' : World σ}
      (hc : callStep runner tools case .reference w = (.ok output, w'))
      (hr : rejectOutput tools case .reference output = some failure) :
      Interpreting w [stepEvent tools case .reference w (.ok output) w']
        (.ok (.failed .reference failure), w')
  | accepted {output : Output} {w' : World σ} {events : List Event}
      {ending : Except Error Verdict × World σ}
      (hc : callStep runner tools case .reference w = (.ok output, w'))
      (hr : rejectOutput tools case .reference output = none)
      (h : Compiling runner tools case output.stdout w' events ending) :
      Interpreting w (stepEvent tools case .reference w (.ok output) w' :: events) ending

/-! ## Every case takes such a course -/

theorem runExecute_executing (expected : Bytes) (w : World σ) :
    ∃ events, Executing runner tools case expected w events
      (runExecute runner tools case expected w) := by
  unfold runExecute
  rcases hc : callStep runner tools case .execute w with ⟨answer, w'⟩
  cases answer with
  | error error => exact ⟨_, .refused hc⟩
  | ok output =>
    simp only
    cases hr : rejectOutput tools case .execute output with
    | some failure => exact ⟨_, .rejected hc hr⟩
    | none =>
      have hjudged : Executing runner tools case expected w _ _ := .judged hc hr
      unfold judge at hjudged
      simp only
      split
      · next he => exact ⟨_, by simpa only [if_pos he] using hjudged⟩
      · next he => exact ⟨_, by simpa only [if_neg he] using hjudged⟩

theorem runLink_linking (expected : Bytes) (w : World σ) :
    ∃ events, Linking runner tools case expected w events (runLink runner tools case expected w) := by
  unfold runLink
  rcases hc : callStep runner tools case .link w with ⟨answer, w'⟩
  cases answer with
  | error error => exact ⟨_, .refused hc⟩
  | ok output =>
    simp only
    split
    · next hs => exact ⟨_, .failed hc (output.success_eq_false_iff.mp hs)⟩
    · next hs =>
      obtain ⟨events, h⟩ := runExecute_executing runner tools case expected w'
      exact ⟨_, .linked hc (output.success_iff.mp (by simpa using hs)) h⟩

theorem runCompile_compiling (expected : Bytes) (w : World σ) :
    ∃ events, Compiling runner tools case expected w events
      (runCompile runner tools case expected w) := by
  unfold runCompile
  rcases hd : w.discard case.ir with ⟨result, w₁⟩
  cases result with
  | error error => exact ⟨_, .stuck hd⟩
  | ok _ =>
    simp only
    rcases hc : callStep runner tools case .compile w₁ with ⟨answer, w'⟩
    cases answer with
    | error error => exact ⟨_, .refused hd hc⟩
    | ok output =>
      simp only
      split
      · next hs => exact ⟨_, .failed hd hc (output.success_eq_false_iff.mp hs)⟩
      · next hs =>
        have hexit := output.success_iff.mp (by simpa using hs)
        split
        · next hir =>
          obtain ⟨events, h⟩ := runLink_linking runner tools case expected w'
          exact ⟨_, .compiled hd hc hexit hir h⟩
        · next hir => exact ⟨_, .missing hd hc hexit (by simpa using hir)⟩

theorem execute_interpreting (w : World σ) :
    ∃ events, Interpreting runner tools case w events (execute runner tools case w) := by
  unfold execute
  rcases hc : callStep runner tools case .reference w with ⟨answer, w'⟩
  cases answer with
  | error error => exact ⟨_, .refused hc⟩
  | ok output =>
    simp only
    cases hr : rejectOutput tools case .reference output with
    | some failure => exact ⟨_, .rejected hc hr⟩
    | none =>
      obtain ⟨events, h⟩ := runCompile_compiling runner tools case output.stdout w'
      exact ⟨_, .accepted hc hr h⟩

/-! ## The events tell all -/

section Unfolds

variable {runner tools case} {expected : Bytes} {w : World σ} {events : List Event}
  {ending : Except Error Verdict × World σ}

theorem Executing.unfolds (h : Executing runner tools case expected w events ending) :
    w.Unfolds runner events ending.2 := by
  cases h with
  | refused hc => exact .call hc
  | rejected hc _ => exact .call hc
  | judged hc _ => exact .call hc

theorem Linking.unfolds (h : Linking runner tools case expected w events ending) :
    w.Unfolds runner events ending.2 := by
  cases h with
  | refused hc => exact .call hc
  | failed hc _ => exact .call hc
  | linked hc _ h => exact (World.Unfolds.call hc).trans h.unfolds

theorem Compiling.unfolds (h : Compiling runner tools case expected w events ending) :
    w.Unfolds runner events ending.2 := by
  cases h with
  | stuck hd => exact .discard hd
  | refused hd hc => exact (World.Unfolds.discard hd).trans (.call hc)
  | failed hd hc _ => exact (World.Unfolds.discard hd).trans (.call hc)
  | missing hd hc _ _ => exact (World.Unfolds.discard hd).trans (.call hc)
  | compiled hd hc _ _ h =>
    exact ((World.Unfolds.discard hd).trans (.call hc)).trans h.unfolds

theorem Interpreting.unfolds (h : Interpreting runner tools case w events ending) :
    w.Unfolds runner events ending.2 := by
  cases h with
  | refused hc => exact .call hc
  | rejected hc _ => exact .call hc
  | accepted hc _ h => exact (World.Unfolds.call hc).trans h.unfolds

end Unfolds

end Crosscheck.Pipeline
