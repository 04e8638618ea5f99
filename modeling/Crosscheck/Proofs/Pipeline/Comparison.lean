import Crosscheck.Proofs.Capture
import Crosscheck.Proofs.Pipeline.Trace

/-! # What a pass means

A case passes exactly when its four processes exit with status zero, the old IR is out of the way,
the compiler leaves new IR behind, and the complete outputs of the reference and of the executable
are the same bytes, none of them beyond the output limit. It is a mismatch exactly when all is the
same but the bytes. No part of an output that was not kept can hide a difference, since output that
was cut is never compared.
-/

namespace Crosscheck

variable {σ ε : Type}

/-- What the runner says about an output is what is kept of a stream: that of the process it ran. -/
def Runner.Captures (runner : Runner σ) (stream : σ → Disk → Invocation → List (Reading ε)) : Prop :=
  ∀ machine disk invocation output, (runner.run machine disk invocation).1 = .ok output →
    ∃ capture,
      (Capture.start invocation.outputLimit).read (stream machine disk invocation) = .ok capture ∧
      output.stdout = capture.kept ∧ output.stdoutCut = capture.cut

/-- Runs processes and captures the streams they write; one that cannot be read is an error. -/
def Runner.capturing (process : σ → Disk → Invocation → ExitState × σ × Disk)
    (stream : σ → Disk → Invocation → List (Reading Error)) : Runner σ where
  run machine disk invocation :=
    let (state, machine', disk') := process machine disk invocation
    match (Capture.start invocation.outputLimit).read (stream machine disk invocation) with
    | .error error => (.error error, machine', disk')
    | .ok capture =>
      (.ok { state := state, stdout := capture.kept, stdoutCut := capture.cut }, machine', disk')

theorem Runner.capturing_captures (process : σ → Disk → Invocation → ExitState × σ × Disk)
    (stream : σ → Disk → Invocation → List (Reading Error)) :
    (Runner.capturing process stream).Captures stream := by
  intro machine disk invocation output h
  simp only [Runner.capturing] at h
  split at h
  · cases h
  · next capture hread =>
    cases h
    exact ⟨capture, hread, rfl, rfl⟩

namespace Pipeline

variable (runner : Runner σ) (tools : Toolchain) (case : TestCase)

/-- A step that is carried out and exits with status zero. -/
structure Exits (step : Step) (w : World σ) (output : Output) (w' : World σ) : Prop where
  call : callStep runner tools case step w = (.ok output, w')
  status : output.state = .exited 0

/-- All four steps of a case, each done well, and the worlds between them. -/
structure Passage (w : World σ) where
  reference : Output
  compile : Output
  link : Output
  execute : Output
  interpreted : World σ
  cleared : World σ
  compiled : World σ
  linked : World σ
  executed : World σ
  reference_exits : Exits runner tools case .reference w reference interpreted
  ir_removed : interpreted.discard case.ir = (.ok (), cleared)
  compile_exits : Exits runner tools case .compile cleared compile compiled
  ir_written : compiled.disk.pathExists case.ir = true
  link_exits : Exits runner tools case .link compiled link linked
  execute_exits : Exits runner tools case .execute linked execute executed

/-- The verdict on two outputs. -/
def judge (expected actual : Bytes) : Verdict :=
  if expected = actual then .pass else .mismatch expected actual

theorem judge_eq_pass_iff (expected actual : Bytes) :
    judge expected actual = .pass ↔ expected = actual := by
  simp [judge]

theorem judge_eq_mismatch_iff (expected actual expected' actual' : Bytes) :
    judge expected actual = .mismatch expected' actual' ↔
      expected ≠ actual ∧ expected = expected' ∧ actual = actual' := by
  by_cases he : expected = actual
  · simp [judge, he]
  · simp [judge, he]

theorem rejectOutput_eq_none_iff (step : Step) (output : Output) :
    rejectOutput tools case step output = none ↔
      output.state = .exited 0 ∧ output.stdoutCut = false := by
  rw [← output.success_iff]
  unfold rejectOutput
  cases output.success <;> cases output.stdoutCut <;> simp

/-! ## Stages that are passed -/

section Stages

variable {runner tools case} {verdict : Verdict} (hv : verdict.failure? = none) (expected : Bytes)
  (w : World σ)
include hv

theorem runExecute_eq_ok_iff :
    (runExecute runner tools case expected w).1 = .ok verdict ↔
      ∃ output w', Exits runner tools case .execute w output w' ∧ output.stdoutCut = false ∧
        verdict = judge expected output.stdout := by
  unfold runExecute
  constructor
  · intro h
    rcases hc : callStep runner tools case .execute w with ⟨answer, w'⟩
    rw [hc] at h
    cases answer with
    | error error => cases h
    | ok output =>
      simp only at h
      split at h
      · cases h
        cases hv
      · next hr =>
        obtain ⟨hs, hcut⟩ := (rejectOutput_eq_none_iff tools case .execute output).mp hr
        refine ⟨output, w', ⟨hc, hs⟩, hcut, ?_⟩
        unfold judge
        split at h
        · next he =>
          cases h
          rw [if_pos he]
        · next he =>
          cases h
          rw [if_neg he]
  · rintro ⟨output, w', ⟨hc, hs⟩, hcut, rfl⟩
    have hr := (rejectOutput_eq_none_iff tools case .execute output).mpr ⟨hs, hcut⟩
    simp only [hc, hr, judge]
    split <;> rfl

theorem runLink_eq_ok_iff :
    (runLink runner tools case expected w).1 = .ok verdict ↔
      ∃ output w', Exits runner tools case .link w output w' ∧
        (runExecute runner tools case expected w').1 = .ok verdict := by
  unfold runLink
  constructor
  · intro h
    rcases hc : callStep runner tools case .link w with ⟨answer, w'⟩
    rw [hc] at h
    cases answer with
    | error error => cases h
    | ok output =>
      simp only at h
      split at h
      · cases h
        cases hv
      · next hs => exact ⟨output, w', ⟨hc, output.success_iff.mp (by simpa using hs)⟩, h⟩
  · rintro ⟨output, w', ⟨hc, hs⟩, h⟩
    simp only [hc, output.success_iff.mpr hs]
    exact h

theorem runCompile_eq_ok_iff :
    (runCompile runner tools case expected w).1 = .ok verdict ↔
      ∃ w₁ output w', w.discard case.ir = (.ok (), w₁) ∧
        Exits runner tools case .compile w₁ output w' ∧ w'.disk.pathExists case.ir = true ∧
        (runLink runner tools case expected w').1 = .ok verdict := by
  unfold runCompile
  constructor
  · intro h
    rcases hd : w.discard case.ir with ⟨result, w₁⟩
    rw [hd] at h
    cases result with
    | error error => cases h
    | ok _ =>
      simp only at h
      rcases hc : callStep runner tools case .compile w₁ with ⟨answer, w'⟩
      rw [hc] at h
      cases answer with
      | error error => cases h
      | ok output =>
        simp only at h
        split at h
        · cases h
          cases hv
        · next hs =>
          split at h
          · next he =>
            exact ⟨w₁, output, w', rfl, ⟨hc, output.success_iff.mp (by simpa using hs)⟩, he, h⟩
          · cases h
            cases hv
  · rintro ⟨w₁, output, w', hd, ⟨hc, hs⟩, he, h⟩
    simp only [hd, hc, output.success_iff.mpr hs, he]
    exact h

theorem execute_eq_ok_iff_runCompile :
    (execute runner tools case w).1 = .ok verdict ↔
      ∃ output w', Exits runner tools case .reference w output w' ∧ output.stdoutCut = false ∧
        (runCompile runner tools case output.stdout w').1 = .ok verdict := by
  unfold execute
  constructor
  · intro h
    rcases hc : callStep runner tools case .reference w with ⟨answer, w'⟩
    rw [hc] at h
    cases answer with
    | error error => cases h
    | ok output =>
      simp only at h
      split at h
      · cases h
        cases hv
      · next hr =>
        obtain ⟨hs, hcut⟩ := (rejectOutput_eq_none_iff tools case .reference output).mp hr
        exact ⟨output, w', ⟨hc, hs⟩, hcut, h⟩
  · rintro ⟨output, w', ⟨hc, hs⟩, hcut, h⟩
    have hr := (rejectOutput_eq_none_iff tools case .reference output).mpr ⟨hs, hcut⟩
    simp only [hc, hr]
    exact h

/-- A verdict that is not the failure of a stage takes a passage through all of them, and compares
the outputs at its two ends. -/
theorem execute_eq_ok_iff :
    (execute runner tools case w).1 = .ok verdict ↔
      ∃ p : Passage runner tools case w, p.reference.stdoutCut = false ∧
        p.execute.stdoutCut = false ∧ verdict = judge p.reference.stdout p.execute.stdout := by
  rw [execute_eq_ok_iff_runCompile hv]
  constructor
  · rintro ⟨reference, w₁, hreference, hcut, h⟩
    obtain ⟨w₂, compile, w₃, hd, hcompile, hir, h⟩ := (runCompile_eq_ok_iff hv _ w₁).mp h
    obtain ⟨link, w₄, hlink, h⟩ := (runLink_eq_ok_iff hv _ w₃).mp h
    obtain ⟨execute, w₅, hexecute, hcut', h⟩ := (runExecute_eq_ok_iff hv _ w₄).mp h
    exact ⟨⟨reference, compile, link, execute, w₁, w₂, w₃, w₄, w₅, hreference, hd, hcompile, hir,
      hlink, hexecute⟩, hcut, hcut', h⟩
  · rintro ⟨p, hcut, hcut', h⟩
    refine ⟨p.reference, p.interpreted, p.reference_exits, hcut, ?_⟩
    refine (runCompile_eq_ok_iff hv _ _).mpr
      ⟨p.cleared, p.compile, p.compiled, p.ir_removed, p.compile_exits, p.ir_written, ?_⟩
    refine (runLink_eq_ok_iff hv _ _).mpr ⟨p.link, p.linked, p.link_exits, ?_⟩
    exact (runExecute_eq_ok_iff hv _ _).mpr ⟨p.execute, p.executed, p.execute_exits, hcut', h⟩

end Stages

/-! ## Complete streams -/

namespace Passage

variable {runner tools case} {w : World σ} (stream : σ → Disk → Invocation → List (Reading ε))

/-- Everything the reference wrote, kept or not. -/
def expected (_ : Passage runner tools case w) : Bytes :=
  Reading.content (stream w.machine w.disk (tools.invocation case .reference))

/-- Everything the executable wrote, kept or not. -/
def actual (p : Passage runner tools case w) : Bytes :=
  Reading.content (stream p.linked.machine p.linked.disk (tools.invocation case .execute))

end Passage

section Streams

variable {runner tools case} {stream : σ → Disk → Invocation → List (Reading ε)}
  (hc : runner.Captures stream)
include hc

/-- The output of a step that was carried out: cut exactly if its stream goes beyond the limit, and
otherwise all of the stream. -/
theorem Exits.complete {step : Step} {w w' : World σ} {output : Output}
    (h : Exits runner tools case step w output w') (hlimit :
      (tools.invocation case step).outputLimit = tools.outputLimit) :
    (output.stdoutCut = false ↔
      (Reading.content (stream w.machine w.disk (tools.invocation case step))).length ≤
        tools.outputLimit) ∧
    (output.stdoutCut = false → output.stdout =
      Reading.content (stream w.machine w.disk (tools.invocation case step))) := by
  have hanswer : (runner.run w.machine w.disk (tools.invocation case step)).1 = .ok output :=
    congrArg Prod.fst h.call
  obtain ⟨capture, hread, hout, hcut⟩ := hc _ _ _ _ hanswer
  have hholds := Capture.holds_of_read hread
  rw [hlimit] at hholds
  rw [hcut, hholds.cut_eq_false_iff, hout]
  exact ⟨Iff.rfl, hholds.kept_eq⟩

/-- Neither output of a passage is cut if and only if both streams keep to the limit, and then the
outputs are the streams. -/
theorem Passage.complete {w : World σ} (p : Passage runner tools case w) :
    (p.reference.stdoutCut = false ∧ p.execute.stdoutCut = false ↔
      (p.expected stream).length ≤ tools.outputLimit ∧
        (p.actual stream).length ≤ tools.outputLimit) ∧
    (p.reference.stdoutCut = false → p.reference.stdout = p.expected stream) ∧
    (p.execute.stdoutCut = false → p.execute.stdout = p.actual stream) := by
  have hr := p.reference_exits.complete hc rfl
  have he := p.execute_exits.complete hc rfl
  exact ⟨and_congr hr.1 he.1, hr.2, he.2⟩

/-- A verdict that is not the failure of a stage is the verdict on the complete streams. -/
theorem execute_eq_ok_iff_streams {verdict : Verdict} (hv : verdict.failure? = none) (w : World σ) :
    (execute runner tools case w).1 = .ok verdict ↔
      ∃ p : Passage runner tools case w,
        (p.expected stream).length ≤ tools.outputLimit ∧
        (p.actual stream).length ≤ tools.outputLimit ∧
        verdict = judge (p.expected stream) (p.actual stream) := by
  rw [execute_eq_ok_iff hv]
  apply exists_congr
  intro p
  obtain ⟨hlimits, hexpected, hactual⟩ := p.complete hc
  rw [← and_assoc, ← and_assoc, ← hlimits]
  apply and_congr_right
  rintro ⟨hr, he⟩
  rw [hexpected hr, hactual he]

/-- A case passes exactly if all its steps are done well and the complete outputs are equal and
within the limit; it is a mismatch of two byte strings exactly if all is the same but that these are
the complete outputs and differ. -/
theorem execute_judges_complete_streams (w : World σ) :
    ((execute runner tools case w).1 = .ok .pass ↔
      ∃ p : Passage runner tools case w,
        (p.expected stream).length ≤ tools.outputLimit ∧
        (p.actual stream).length ≤ tools.outputLimit ∧ p.expected stream = p.actual stream) ∧
    ∀ expected actual, (execute runner tools case w).1 = .ok (.mismatch expected actual) ↔
      ∃ p : Passage runner tools case w,
        (p.expected stream).length ≤ tools.outputLimit ∧
        (p.actual stream).length ≤ tools.outputLimit ∧ p.expected stream ≠ p.actual stream ∧
        expected = p.expected stream ∧ actual = p.actual stream := by
  constructor
  · rw [execute_eq_ok_iff_streams hc rfl]
    simp only [eq_comm (a := Verdict.pass), judge_eq_pass_iff]
  · intro expected actual
    rw [execute_eq_ok_iff_streams hc rfl]
    simp only [eq_comm (a := Verdict.mismatch expected actual), judge_eq_mismatch_iff,
      eq_comm (a := expected), eq_comm (a := actual)]

end Streams

/-! ## A case at the limit -/

/-- Tools of which three bytes of output are kept. -/
def narrowTools : Toolchain where
  compiler := "cc"
  runtimeArchive := "rt.a"
  reference := ⟨"ref", []⟩
  linker := ⟨"ld", []⟩
  timeout := none
  outputLimit := 3

def narrowCase : TestCase := ⟨"p", "p.s", "p.ll", "./p"⟩

/-- The reference writes three bytes in two pieces, with an interruption between them; every other
program writes them at once. -/
def narrowStream (_ : Unit) (_ : Disk) (invocation : Invocation) : List (Reading Error) :=
  if invocation.program = "ref" then [.chunk [1], .interrupted, .chunk [2, 3], .chunk []]
  else [.chunk [1, 2, 3], .chunk []]

/-- All programs exit with status zero, and the compiler writes its IR. -/
def narrowRunner : Runner Unit :=
  .capturing
    (fun _ disk invocation =>
      (.exited 0, (),
        if invocation.program = "cc" then disk.set ["work", "p.ll"] (.file [] false) else disk))
    narrowStream

/-- Outputs of exactly the limit, in different pieces, make a pass. -/
theorem narrowCase_passes :
    narrowRunner.Captures narrowStream ∧
    (execute narrowRunner narrowTools narrowCase (World.start () Disk.fresh .built)).1 =
      .ok .pass ∧
    ∃ p : Passage narrowRunner narrowTools narrowCase (World.start () Disk.fresh .built),
      p.expected narrowStream = [1, 2, 3] ∧ p.actual narrowStream = [1, 2, 3] := by
  have hc : narrowRunner.Captures narrowStream := Runner.capturing_captures _ _
  have hpass : (execute narrowRunner narrowTools narrowCase
      (World.start () Disk.fresh .built)).1 = .ok .pass := rfl
  obtain ⟨p, -, -, he⟩ := (execute_judges_complete_streams hc _).1.mp hpass
  have hexpected : p.expected narrowStream = [1, 2, 3] := rfl
  exact ⟨hc, hpass, p, hexpected, by rw [← he, hexpected]⟩

end Pipeline

end Crosscheck
