import Crosscheck.Proofs.Pipeline.Comparison
import Crosscheck.Proofs.Run

/-! # Two cases side by side

What the pipeline does is decided by the answers of the runner, by the removals and by a look for
the IR. So two cases go the same way, in different worlds and with different runners, if these stay
the same for them. `Coupling` says what has to be shown for that: a relation between the two worlds
that every call and every removal preserves. It may rest on something that is granted of the calls,
as long as what is granted of later worlds is granted of earlier ones.

Failures are compared through a view of them, which may leave a part of them out.
-/

namespace Crosscheck

variable {σ τ : Type}

/-- The verdict, with another failure in place of its own. -/
def Verdict.mapFailure (view : StageFailure → StageFailure) : Verdict → Verdict
  | pass => .pass
  | failed step failure => .failed step (view failure)
  | mismatch expected actual => .mismatch expected actual

@[simp] theorem Verdict.isPass_mapFailure (view : StageFailure → StageFailure) (verdict : Verdict) :
    (verdict.mapFailure view).isPass = verdict.isPass := by
  cases verdict <;> rfl

namespace Pipeline

/-- Two outputs of a step that the pipeline treats in the same way. -/
structure Alike (tools : Toolchain) (case : TestCase) (view : StageFailure → StageFailure)
    (step : Step) (output output' : Output) : Prop where
  state : output.state = output'.state
  stdout : step = .reference ∨ step = .execute → output.state = .exited 0 →
    output.stdout = output'.stdout ∧ output.stdoutCut = output'.stdoutCut
  failure : ∀ reason, view (failureOf tools case step output reason) =
    view (failureOf tools case step output' reason)

inductive Answered (alike : Output → Output → Prop) :
    Except Error Output → Except Error Output → Prop
  | refused (error : Error) : Answered alike (.error error) (.error error)
  | given {output output' : Output} (h : alike output output') :
      Answered alike (.ok output) (.ok output')

structure Coupling (runner : Runner σ) (runner' : Runner τ) (tools : Toolchain) (case : TestCase)
    (view : StageFailure → StageFailure) (granted : List Call → List Call → Prop)
    (together : World σ → World τ → Prop) : Prop where
  earlier : ∀ {calls later calls' later'}, calls <+: later → calls' <+: later' →
    granted later later' → granted calls calls'
  call : ∀ {w w'} step, together w w' →
    granted (callStep runner tools case step w).2.journal
      (callStep runner' tools case step w').2.journal →
    Answered (Alike tools case view step) (callStep runner tools case step w).1
      (callStep runner' tools case step w').1 ∧
    together (callStep runner tools case step w).2 (callStep runner' tools case step w').2
  discard : ∀ {w w'} path, path = case.ir ∨ path = case.executable → together w w' →
    (w.discard path).1 = (w'.discard path).1 ∧ together (w.discard path).2 (w'.discard path).2
  written : ∀ {w w'}, together w w' → w.disk.pathExists case.ir = w'.disk.pathExists case.ir

/-- Two ways through a part of the pipeline have ended alike. -/
structure Paired (view : StageFailure → StageFailure) (together : World σ → World τ → Prop)
    (ending : Except Error Verdict × World σ) (ending' : Except Error Verdict × World τ) :
    Prop where
  result : ending.1.map (Verdict.mapFailure view) = ending'.1.map (Verdict.mapFailure view)
  together : together ending.2 ending'.2

variable {runner : Runner σ} {runner' : Runner τ} {tools : Toolchain} {case : TestCase}
  {view : StageFailure → StageFailure} {granted : List Call → List Call → Prop}
  {together : World σ → World τ → Prop} {w : World σ} {w' : World τ}

theorem Alike.success {step : Step} {output output' : Output}
    (h : Alike tools case view step output output') : output.success = output'.success := by
  unfold Output.success
  rw [h.state]

theorem Alike.rejected_or_accepted {step : Step} {output output' : Output}
    (h : Alike tools case view step output output') (hstep : step = .reference ∨ step = .execute) :
    (∃ failure failure', rejectOutput tools case step output = some failure ∧
      rejectOutput tools case step output' = some failure' ∧ view failure = view failure') ∨
    (rejectOutput tools case step output = none ∧ rejectOutput tools case step output' = none ∧
      output.stdout = output'.stdout) := by
  unfold rejectOutput
  rw [← h.success]
  cases hs : output.success with
  | false => exact .inl ⟨_, _, rfl, rfl, h.failure _⟩
  | true =>
    obtain ⟨hstdout, hcut⟩ := h.stdout hstep (output.success_iff.mp hs)
    rw [← hcut]
    cases output.stdoutCut with
    | true => exact .inl ⟨_, _, rfl, rfl, h.failure _⟩
    | false => exact .inr ⟨rfl, rfl, hstdout⟩

/-! ## The journal of a stage begins with its own call -/

theorem callStep_prefix_runExecute (runner : Runner σ) (expected : Bytes) (w : World σ) :
    (callStep runner tools case .execute w).2.journal <+:
      (runExecute runner tools case expected w).2.journal := by
  unfold runExecute
  rcases callStep runner tools case .execute w with ⟨answer, w₁⟩
  cases answer with
  | error error => exact List.prefix_rfl
  | ok output =>
    simp only
    split
    · exact List.prefix_rfl
    · split <;> exact List.prefix_rfl

theorem callStep_prefix_runLink (runner : Runner σ) (expected : Bytes) (w : World σ) :
    (callStep runner tools case .link w).2.journal <+:
      (runLink runner tools case expected w).2.journal := by
  unfold runLink
  rcases callStep runner tools case .link w with ⟨answer, w₁⟩
  cases answer with
  | error error => exact List.prefix_rfl
  | ok output =>
    simp only
    split
    · exact List.prefix_rfl
    · exact (runExecute_follows runner tools case expected w₁).evolves.journal_grows

theorem callStep_prefix_runCompile (runner : Runner σ) (expected : Bytes) {w w₁ : World σ}
    (hd : w.discard case.ir = (.ok (), w₁)) :
    (callStep runner tools case .compile w₁).2.journal <+:
      (runCompile runner tools case expected w).2.journal := by
  unfold runCompile
  rw [hd]
  dsimp only
  rcases callStep runner tools case .compile w₁ with ⟨answer, w₂⟩
  cases answer with
  | error error => exact List.prefix_rfl
  | ok output =>
    simp only
    split
    · exact List.prefix_rfl
    split
    · exact (runLink_follows runner tools case expected w₂).evolves.journal_grows
    · exact List.prefix_rfl

theorem callStep_prefix_execute (runner : Runner σ) (w : World σ) :
    (callStep runner tools case .reference w).2.journal <+:
      (execute runner tools case w).2.journal := by
  unfold execute
  rcases callStep runner tools case .reference w with ⟨answer, w₁⟩
  cases answer with
  | error error => exact List.prefix_rfl
  | ok output =>
    simp only
    split
    · exact List.prefix_rfl
    · exact (runCompile_follows runner tools case output.stdout w₁).evolves.journal_grows

/-! ## Stage by stage -/

namespace Coupling

theorem runExecute_paired (h : Coupling runner runner' tools case view granted together)
    (expected : Bytes) (ht : together w w')
    (hg : granted (runExecute runner tools case expected w).2.journal
      (runExecute runner' tools case expected w').2.journal) :
    Paired view together (runExecute runner tools case expected w)
      (runExecute runner' tools case expected w') := by
  obtain ⟨hanswers, ht₁⟩ := h.call .execute ht (h.earlier (callStep_prefix_runExecute runner _ w)
    (callStep_prefix_runExecute runner' _ w') hg)
  unfold runExecute
  rcases hc : callStep runner tools case .execute w with ⟨answer, w₁⟩
  rcases hc' : callStep runner' tools case .execute w' with ⟨answer', w₁'⟩
  rw [hc, hc'] at hanswers ht₁
  cases hanswers with
  | refused error => exact ⟨rfl, ht₁⟩
  | @given output output' halike =>
    simp only
    rcases halike.rejected_or_accepted (.inr rfl) with ⟨failure, failure', hr, hr', hview⟩ |
      ⟨hr, hr', hstdout⟩
    · rw [hr, hr']
      exact ⟨by simp [Except.map, Verdict.mapFailure, hview], ht₁⟩
    · rw [hr, hr', ← hstdout]
      simp only
      split <;> exact ⟨rfl, ht₁⟩

theorem runLink_paired (h : Coupling runner runner' tools case view granted together)
    (expected : Bytes) (ht : together w w')
    (hg : granted (runLink runner tools case expected w).2.journal
      (runLink runner' tools case expected w').2.journal) :
    Paired view together (runLink runner tools case expected w)
      (runLink runner' tools case expected w') := by
  obtain ⟨hanswers, ht₁⟩ := h.call .link ht (h.earlier (callStep_prefix_runLink runner _ w)
    (callStep_prefix_runLink runner' _ w') hg)
  unfold runLink at hg ⊢
  rcases hc : callStep runner tools case .link w with ⟨answer, w₁⟩
  rcases hc' : callStep runner' tools case .link w' with ⟨answer', w₁'⟩
  rw [hc, hc'] at hanswers ht₁ hg
  cases hanswers with
  | refused error => exact ⟨rfl, ht₁⟩
  | @given output output' halike =>
    simp only [← halike.success] at hg ⊢
    split
    · exact ⟨by simp [Except.map, Verdict.mapFailure, halike.failure], ht₁⟩
    · next hs =>
      rw [if_neg hs, if_neg hs] at hg
      exact h.runExecute_paired expected ht₁ hg

theorem runCompile_paired (h : Coupling runner runner' tools case view granted together)
    (expected : Bytes) (ht : together w w')
    (hg : granted (runCompile runner tools case expected w).2.journal
      (runCompile runner' tools case expected w').2.journal) :
    Paired view together (runCompile runner tools case expected w)
      (runCompile runner' tools case expected w') := by
  obtain ⟨hresult, ht₁⟩ := h.discard case.ir (.inl rfl) ht
  rcases hd : w.discard case.ir with ⟨removed, w₁⟩
  rcases hd' : w'.discard case.ir with ⟨removed', w₁'⟩
  rw [hd, hd'] at hresult ht₁
  obtain rfl : removed = removed' := hresult
  cases removed with
  | error error =>
    unfold runCompile
    rw [hd, hd']
    exact ⟨rfl, ht₁⟩
  | ok _ =>
    obtain ⟨hanswers, ht₂⟩ := h.call .compile ht₁ (h.earlier
      (callStep_prefix_runCompile runner _ hd) (callStep_prefix_runCompile runner' _ hd') hg)
    unfold runCompile at hg ⊢
    rw [hd, hd'] at hg ⊢
    rcases hc : callStep runner tools case .compile w₁ with ⟨answer, w₂⟩
    rcases hc' : callStep runner' tools case .compile w₁' with ⟨answer', w₂'⟩
    rw [hc, hc'] at hanswers ht₂
    simp only [hc, hc'] at hg ⊢
    cases hanswers with
    | refused error => exact ⟨rfl, ht₂⟩
    | @given output output' halike =>
      have hfailure : ∀ reason, Except.map (Verdict.mapFailure view)
          (.ok (.failed .compile (failureOf tools case .compile output reason)) :
            Except Error Verdict) =
          Except.map (Verdict.mapFailure view)
            (.ok (.failed .compile (failureOf tools case .compile output' reason))) := by
        simp [Except.map, Verdict.mapFailure, halike.failure]
      simp only [← halike.success, ← h.written ht₂] at hg ⊢
      split
      · exact ⟨hfailure _, ht₂⟩
      · next hs =>
        rw [if_neg hs, if_neg hs] at hg
        split
        · next hi =>
          rw [if_pos hi, if_pos hi] at hg
          exact h.runLink_paired expected ht₂ hg
        · exact ⟨hfailure _, ht₂⟩

theorem execute_paired (h : Coupling runner runner' tools case view granted together)
    (ht : together w w')
    (hg : granted (execute runner tools case w).2.journal
      (execute runner' tools case w').2.journal) :
    Paired view together (execute runner tools case w) (execute runner' tools case w') := by
  obtain ⟨hanswers, ht₁⟩ := h.call .reference ht (h.earlier (callStep_prefix_execute runner w)
    (callStep_prefix_execute runner' w') hg)
  unfold execute at hg ⊢
  rcases hc : callStep runner tools case .reference w with ⟨answer, w₁⟩
  rcases hc' : callStep runner' tools case .reference w' with ⟨answer', w₁'⟩
  rw [hc, hc'] at hanswers ht₁ hg
  cases hanswers with
  | refused error => exact ⟨rfl, ht₁⟩
  | @given output output' halike =>
    simp only at hg ⊢
    rcases halike.rejected_or_accepted (.inl rfl) with ⟨failure, failure', hr, hr', hview⟩ |
      ⟨hr, hr', hstdout⟩
    · rw [hr, hr']
      exact ⟨by simp [Except.map, Verdict.mapFailure, hview], ht₁⟩
    · rw [hr, hr', ← hstdout] at hg ⊢
      exact h.runCompile_paired output.stdout ht₁ hg

end Coupling

end Pipeline

/-! ## Behind the gate -/

def Outcome.mapFailure (view : StageFailure → StageFailure) (outcome : Outcome) : Outcome :=
  ⟨outcome.name, outcome.verdict.mapFailure view⟩

namespace Driver

variable {driver : Driver} {case : TestCase}

/-- Removing the executable of a case that passed is no call. -/
theorem journal_runCase {runner : Runner σ} {w w₁ : World σ}
    (hg : driver.gate.ensureBuilt runner w = (.ok (), w₁)) :
    (driver.runCase runner case w).2.journal =
      (Pipeline.execute runner driver.tools case w₁).2.journal := by
  have hh := driver.runCase_handled runner case w
  generalize driver.runCase runner case w = ending at hh ⊢
  cases hh with
  | refused hg' =>
    rw [hg] at hg'
    cases hg'
  | stopped hg' hx =>
    cases hg.symm.trans hg'
    rw [hx]
  | failed hg' hx _ =>
    cases hg.symm.trans hg'
    rw [hx]
  | stuck hg' hx _ hd =>
    cases hg.symm.trans hg'
    rw [hx, (World.removed_of_discard hd).journal]
  | passed hg' hx _ hd =>
    cases hg.symm.trans hg'
    rw [hx, (World.removed_of_discard hd).journal]

theorem ensureBuilt_prefix_runCase (driver : Driver) (runner : Runner σ) (case : TestCase)
    (w : World σ) :
    (driver.gate.ensureBuilt runner w).2.journal <+: (driver.runCase runner case w).2.journal := by
  rcases hg : driver.gate.ensureBuilt runner w with ⟨passed, w₁⟩
  cases passed with
  | error error =>
    simp only [runCase, hg, List.prefix_rfl]
  | ok _ =>
    rw [journal_runCase hg]
    exact (Pipeline.execute_follows runner driver.tools case w₁).evolves.journal_grows

/-- Two cases that have come through the gate go the same way. -/
theorem runCase_paired {runner : Runner σ} {runner' : Runner τ}
    {view : StageFailure → StageFailure} {granted : List Call → List Call → Prop}
    {together : World σ → World τ → Prop} {w w₁ : World σ} {w' w₁' : World τ}
    (h : Pipeline.Coupling runner runner' driver.tools case view granted together)
    (hg : driver.gate.ensureBuilt runner w = (.ok (), w₁))
    (hg' : driver.gate.ensureBuilt runner' w' = (.ok (), w₁')) (ht : together w₁ w₁')
    (hgranted : granted (driver.runCase runner case w).2.journal
      (driver.runCase runner' case w').2.journal) :
    (driver.runCase runner case w).1.map (Outcome.mapFailure view) =
      (driver.runCase runner' case w').1.map (Outcome.mapFailure view) ∧
    together (driver.runCase runner case w).2 (driver.runCase runner' case w').2 := by
  rw [journal_runCase hg, journal_runCase hg'] at hgranted
  obtain ⟨hresult, ht₂⟩ := h.execute_paired ht hgranted
  unfold runCase
  rw [hg, hg']
  rcases hx : Pipeline.execute runner driver.tools case w₁ with ⟨result, w₂⟩
  rcases hx' : Pipeline.execute runner' driver.tools case w₁' with ⟨result', w₂'⟩
  rw [hx, hx'] at hresult ht₂
  simp only [hx, hx']
  cases result with
  | error error =>
    cases result' with
    | error error' =>
      cases hresult
      exact ⟨rfl, ht₂⟩
    | ok verdict' => cases hresult
  | ok verdict =>
    cases result' with
    | error error' => cases hresult
    | ok verdict' =>
      have hverdict : verdict.mapFailure view = verdict'.mapFailure view := Except.ok.inj hresult
      have hpass : verdict.isPass = verdict'.isPass := by
        rw [← verdict.isPass_mapFailure view, hverdict, verdict'.isPass_mapFailure view]
      have hitem : Except.map (Outcome.mapFailure view)
          (.ok ⟨case.name, verdict⟩ : Except Error Outcome) =
          Except.map (Outcome.mapFailure view) (.ok ⟨case.name, verdict'⟩) := by
        simp [Except.map, Outcome.mapFailure, hverdict]
      simp only [← hpass]
      split
      · obtain ⟨hremoved, ht₃⟩ := h.discard case.executable (.inr rfl) ht₂
        rcases hd : w₂.discard case.executable with ⟨removed, w₃⟩
        rcases hd' : w₂'.discard case.executable with ⟨removed', w₃'⟩
        rw [hd, hd'] at hremoved ht₃
        obtain rfl : removed = removed' := hremoved
        cases removed with
        | error error => exact ⟨rfl, ht₃⟩
        | ok _ => exact ⟨hitem, ht₃⟩
      · exact ⟨hitem, ht₂⟩

end Driver

end Crosscheck
