import Crosscheck.Pipeline
import Crosscheck.Proofs.History

/-! # The calls of a case

Whatever the runner does, a case calls it for its four steps in order, and how it ends says how far
it came: a stage that fails is the last one called, and its record is that of the last call. An error
comes from a refused call or a failed removal and from nothing else.

`Traced` says this of any final part of the pipeline. Each stage adds one call in front of what the
rest of the pipeline does.
-/

namespace Crosscheck

/-- How many processes have been started when a case ends with this kind. -/
def Kind.callCount : Kind → Nat
  | referenceExecutionError => 1
  | compilationError => 2
  | linkError => 3
  | executionError | outputMismatch | pass => 4

theorem Output.success_iff (output : Output) : output.success = true ↔ output.state = .exited 0 := by
  simp [Output.success, ExitState.success]

theorem Output.success_eq_false_iff (output : Output) :
    output.success = false ↔ output.state ≠ .exited 0 := by
  rw [← Bool.not_eq_true, output.success_iff]

/-- A failure is the record of a step: of its call and of what it gave. -/
structure StageFailure.Records (failure : StageFailure) (step : Step) (call : Call)
    (output : Output) : Prop where
  stage : failure.stage = .process step
  command : failure.command = call.invocation.commandLine
  state : failure.state = output.state
  stderr : failure.stderr = output.stderr
  reason : failure.reason.isSome = true ↔ output.state = .exited 0

namespace Pipeline

/-- The call of a step. -/
def stepCall (tools : Toolchain) (case : TestCase) (build : BuildState) (step : Step) (before : Disk)
    (answer : Except Error Output) (after : Disk) : Call :=
  ⟨.stage case step, tools.invocation case step, build, before, answer, after⟩

section Records

variable (tools : Toolchain) (case : TestCase) (build : BuildState) (step : Step)
  (before after : Disk) (answer : Except Error Output) (output : Output)

theorem failureOf_records (reason : Option String)
    (hr : reason.isSome = true ↔ output.state = .exited 0) :
    (failureOf tools case step output reason).Records step
      (stepCall tools case build step before answer after) output :=
  ⟨rfl, rfl, rfl, rfl, hr⟩

theorem failureOf_none_records (hs : output.success = false) :
    (failureOf tools case step output none).Records step
      (stepCall tools case build step before answer after) output := by
  apply failureOf_records
  simpa using output.success_eq_false_iff.mp hs

theorem rejectOutput_records {failure : StageFailure}
    (h : rejectOutput tools case step output = some failure) :
    failure.Records step (stepCall tools case build step before answer after) output := by
  unfold rejectOutput at h
  split at h
  · next hs =>
    cases h
    exact failureOf_none_records tools case build step before after answer output hs
  · next hs =>
    split at h
    · cases h
      apply failureOf_records
      simpa using output.success_iff.mp (by simpa using hs)
    · cases h

end Records

/-! ## Parts of the pipeline -/

/-- The calls and removals of a part of the pipeline that is to go through the given steps, and how
that part ends. -/
structure Traced (tools : Toolchain) (case : TestCase) (build : BuildState) (steps : List Step)
    (calls : List Call) (removals : List Removal) (result : Except Error Verdict) : Prop where
  asked : calls.map (fun call => (call.purpose, call.invocation, call.build)) <+:
    steps.map (fun step => (.stage case step, tools.invocation case step, build))
  removed : ∀ removal ∈ removals, removal.path = case.ir
  count : ∀ verdict, result = .ok verdict →
    calls.length + 4 = steps.length + verdict.kind.callCount
  failure : ∀ step failure, result = .ok (.failed step failure) →
    ∃ call output, calls.getLast? = some call ∧ call.answer = .ok output ∧
      failure.Records step call output
  error : ∀ error, result = .error error ↔
    (∃ call, calls.getLast? = some call ∧ call.answer = .error error) ∨
      (calls.length + 3 = steps.length ∧ ∃ removal ∈ removals, removal.outcome = .error error)

namespace Traced

variable {tools : Toolchain} {case : TestCase} {build : BuildState} {step : Step}
  {rest steps : List Step} {before after : Disk} {calls : List Call} {removals : List Removal}
  {result : Except Error Verdict}

theorem refused (error : Error) :
    Traced tools case build (step :: rest)
      [stepCall tools case build step before (.error error) after] [] (.error error) where
  asked := by simp [stepCall]
  removed := by simp
  count := by simp
  failure := by simp
  error := by simp [stepCall]

theorem failed {output : Output} {failure : StageFailure}
    (hlen : rest.length + step.kind.callCount = 4)
    (hf : failure.Records step (stepCall tools case build step before (.ok output) after) output) :
    Traced tools case build (step :: rest)
      [stepCall tools case build step before (.ok output) after] []
      (.ok (.failed step failure)) where
  asked := by simp [stepCall]
  removed := by simp
  count := by
    intro verdict hv
    cases hv
    simp only [List.length_cons, List.length_nil, Verdict.kind]
    omega
  failure := by
    intro step' failure' hv
    cases hv
    exact ⟨_, output, rfl, rfl, hf⟩
  error := by simp [stepCall]

theorem judged {output : Output} {verdict : Verdict} (hcount : verdict.kind.callCount = 4)
    (hv : verdict.failure? = none) :
    Traced tools case build [.execute]
      [stepCall tools case build .execute before (.ok output) after] [] (.ok verdict) where
  asked := by simp [stepCall]
  removed := by simp
  count := by
    intro verdict' hv'
    cases hv'
    rw [hcount]
    rfl
  failure := by
    intro step failure hf
    cases hf
    cases hv
  error := by simp [stepCall]

/-- A call that was answered, before everything else. -/
theorem next {output : Output} (h : Traced tools case build rest calls removals result) :
    Traced tools case build (step :: rest)
      (stepCall tools case build step before (.ok output) after :: calls) removals result where
  asked := by
    simp only [List.map_cons]
    exact (List.cons_prefix_cons).mpr ⟨rfl, h.asked⟩
  removed := h.removed
  count := by
    intro verdict hv
    have hc := h.count verdict hv
    simp only [List.length_cons]
    omega
  failure := by
    intro step' failure hv
    obtain ⟨call, output', hlast, hrest⟩ := h.failure step' failure hv
    refine ⟨call, output', ?_, hrest⟩
    rw [List.getLast?_cons, hlast]
    rfl
  error := by
    intro error
    have hlen : calls.length + 1 + 3 = rest.length + 1 ↔ calls.length + 3 = rest.length := by omega
    rw [h.error error, List.length_cons, List.length_cons, hlen, List.getLast?_cons]
    cases calls.getLast? with
    | none => simp [stepCall]
    | some call => simp

theorem blocked {removal : Removal} {error : Error} (hlen : steps.length = 3)
    (hp : removal.path = case.ir) (h : removal.outcome = .error error) :
    Traced tools case build steps [] [removal] (.error error) where
  asked := by simp
  removed := by simpa using hp
  count := by simp
  failure := by simp
  error := by simp [h, hlen]

/-- A removal that went well, before everything else. -/
theorem cleared {removal : Removal} (hp : removal.path = case.ir) (ho : removal.outcome = .ok ())
    (h : Traced tools case build steps calls removals result) :
    Traced tools case build steps calls (removal :: removals) result where
  asked := h.asked
  removed := by
    intro removal' hr
    rcases List.mem_cons.mp hr with rfl | hr
    · exact hp
    · exact h.removed removal' hr
  count := h.count
  failure := h.failure
  error := by
    intro error
    rw [h.error error]
    simp [ho]

theorem stage_of_mem (h : Traced tools case build steps calls removals result) {call : Call}
    (hm : call ∈ calls) : ∃ step, call.purpose = .stage case step ∧ call.build = build := by
  have hasked := h.asked.subset
    (List.mem_map_of_mem (f := fun call => (call.purpose, call.invocation, call.build)) hm)
  obtain ⟨step, -, he⟩ := List.mem_map.mp hasked
  exact ⟨step, (congrArg Prod.fst he).symm, (congrArg (fun asked => asked.2.2) he).symm⟩

end Traced

/-! ## Stage by stage -/

variable {σ : Type} (runner : Runner σ) (tools : Toolchain) (case : TestCase)

/-- From the world `w` a part of the pipeline that is to go through the given steps ends like this. -/
structure Follows (steps : List Step) (w : World σ) (ending : Except Error Verdict × World σ) :
    Prop where
  evolves : w.Evolves runner (· = case.ir) ending.2
  latch : ending.2.latch = w.latch
  traced : ∃ events, w.Unfolds runner events ending.2 ∧
    Traced tools case w.build steps (Event.calls events) (Event.removals events) ending.1

/-- A part of the pipeline that ends with its first call. -/
theorem follows_of_call {step : Step} {steps : List Step} {w w' : World σ}
    {answer : Except Error Output} {result : Except Error Verdict}
    (hc : callStep runner tools case step w = (answer, w'))
    (ht : Traced tools case w.build steps
      [stepCall tools case w.build step w.disk answer w'.disk] [] result) :
    Follows runner tools case steps w (result, w') :=
  ⟨World.Evolves.refl.call hc, (World.called_of_call hc).latch, _, .call hc, ht⟩

/-- A part of the pipeline that goes on after its first call. -/
theorem follows_next {step : Step} {rest : List Step} {w w' : World σ} {output : Output}
    {ending : Except Error Verdict × World σ}
    (hc : callStep runner tools case step w = (.ok output, w'))
    (h : Follows runner tools case rest w' ending) :
    Follows runner tools case (step :: rest) w ending := by
  have hcall := World.called_of_call hc
  obtain ⟨events, hu, ht⟩ := h.traced
  rw [hcall.build] at ht
  exact ⟨(World.Evolves.refl.call hc).trans h.evolves, h.latch.trans hcall.latch, _,
    (World.Unfolds.call hc).trans hu, ht.next⟩

theorem runExecute_follows (expected : Bytes) (w : World σ) :
    Follows runner tools case [.execute] w (runExecute runner tools case expected w) := by
  unfold runExecute
  rcases hc : callStep runner tools case .execute w with ⟨answer, w'⟩
  cases answer with
  | error error => exact follows_of_call runner tools case hc (.refused error)
  | ok output =>
    simp only
    split
    · next failure hr =>
      exact follows_of_call runner tools case hc
        (.failed rfl (rejectOutput_records tools case _ .execute _ _ _ output hr))
    · split
      · exact follows_of_call runner tools case hc (.judged rfl rfl)
      · exact follows_of_call runner tools case hc (.judged rfl rfl)

theorem runLink_follows (expected : Bytes) (w : World σ) :
    Follows runner tools case [.link, .execute] w (runLink runner tools case expected w) := by
  unfold runLink
  rcases hc : callStep runner tools case .link w with ⟨answer, w'⟩
  cases answer with
  | error error => exact follows_of_call runner tools case hc (.refused error)
  | ok output =>
    simp only
    split
    · next hs =>
      exact follows_of_call runner tools case hc
        (.failed rfl (failureOf_none_records tools case _ .link _ _ _ output hs))
    · exact follows_next runner tools case hc (runExecute_follows runner tools case expected w')

/-- The compilation, once the old IR is out of the way. -/
theorem runCompile_follows (expected : Bytes) (w : World σ) :
    Follows runner tools case [.compile, .link, .execute] w (runCompile runner tools case expected w) := by
  unfold runCompile
  rcases hd : w.discard case.ir with ⟨result, w₁⟩
  have hremoved := World.removed_of_discard hd
  have hevolves : w.Evolves runner (· = case.ir) w₁ := World.Evolves.refl.discard rfl hd
  cases result with
  | error error =>
    exact ⟨hevolves, hremoved.latch, _, .discard hd, .blocked rfl rfl hremoved.outcome⟩
  | ok _ =>
    -- What follows the removal starts in a world with the same journal and build.
    suffices h : Follows runner tools case [.compile, .link, .execute] w₁ _ by
      obtain ⟨events, hu, ht⟩ := h.traced
      rw [hremoved.build] at ht
      exact ⟨hevolves.trans h.evolves, h.latch.trans hremoved.latch, _,
        (World.Unfolds.discard hd).trans hu, ht.cleared rfl hremoved.outcome⟩
    simp only
    rcases hc : callStep runner tools case .compile w₁ with ⟨answer, w'⟩
    cases answer with
    | error error => exact follows_of_call runner tools case hc (.refused error)
    | ok output =>
      simp only
      split
      · next hs =>
        exact follows_of_call runner tools case hc
          (.failed rfl (failureOf_none_records tools case _ .compile _ _ _ output hs))
      · next hs =>
        split
        · exact follows_next runner tools case hc (runLink_follows runner tools case expected w')
        · apply follows_of_call runner tools case hc (.failed rfl _)
          apply failureOf_records
          simpa using output.success_iff.mp (by simpa using hs)

theorem execute_follows (w : World σ) :
    Follows runner tools case [.reference, .compile, .link, .execute] w
      (execute runner tools case w) := by
  unfold execute
  rcases hc : callStep runner tools case .reference w with ⟨answer, w'⟩
  cases answer with
  | error error => exact follows_of_call runner tools case hc (.refused error)
  | ok output =>
    simp only
    split
    · next failure hr =>
      exact follows_of_call runner tools case hc
        (.failed rfl (rejectOutput_records tools case _ .reference _ _ _ output hr))
    · exact follows_next runner tools case hc (runCompile_follows runner tools case output.stdout w')

/-- The calls of a case are the first ones of the four that the tools prescribe, and with the
removals they are all that happens to the machine and the disk: each entry of the journal is what
the runner did there. A verdict fixes how many calls there are, and that of a failed stage records
the last one; there is an error exactly if the last call was refused, or if the IR could not be
removed after the first. -/
theorem execute_trace (w : World σ) :
    ∃ events calls removals,
      w.Unfolds runner events (execute runner tools case w).2 ∧
      Event.calls events = calls ∧ Event.removals events = removals ∧
      (execute runner tools case w).2.journal = w.journal ++ calls ∧
      (execute runner tools case w).2.removals = w.removals ++ removals ∧
      calls.map Call.invocation <+:
        [{ program := tools.reference.program
           args := tools.reference.args
           stdin := some case.source
           timeout := tools.timeout
           outputLimit := tools.outputLimit },
         { program := tools.compiler
           args := [case.source]
           stdin := none
           timeout := tools.timeout
           outputLimit := tools.outputLimit },
         { program := tools.linker.program
           args := tools.linker.args ++ [case.ir, tools.runtimeArchive, "-o", case.executable]
           stdin := none
           timeout := tools.timeout
           outputLimit := tools.outputLimit },
         { program := Path.direct case.executable
           args := []
           stdin := none
           timeout := tools.timeout
           outputLimit := tools.outputLimit }] ∧
      (∀ verdict, (execute runner tools case w).1 = .ok verdict →
        calls.length = verdict.kind.callCount) ∧
      (∀ verdict failure, (execute runner tools case w).1 = .ok verdict →
        verdict.failure? = some failure →
        ∃ step call output, verdict.kind = step.kind ∧ calls.getLast? = some call ∧
          call.answer = .ok output ∧ failure.Records step call output) ∧
      (∀ error, (execute runner tools case w).1 = .error error ↔
        (∃ call, calls.getLast? = some call ∧ call.answer = .error error) ∨
          (calls.length = 1 ∧
            ∃ removal ∈ removals, removal.path = case.ir ∧ removal.outcome = .error error)) := by
  obtain ⟨events, hu, ht⟩ := (execute_follows runner tools case w).traced
  generalize hcalls : Event.calls events = calls at ht
  generalize hremovals : Event.removals events = removals at ht
  refine ⟨events, calls, removals, hu, hcalls, hremovals, ?_, ?_, ?_, ?_, ?_, ?_⟩
  · rw [hu.journal, hcalls]
  · rw [hu.removals, hremovals]
  · have hinv := ht.asked.map (fun asked => asked.2.1)
    rw [List.map_map, List.map_map] at hinv
    exact hinv
  · intro verdict hv
    have hc := ht.count verdict hv
    simp only [List.length_cons, List.length_nil] at hc
    omega
  · intro verdict failure hv hf
    cases verdict with
    | pass => cases hf
    | mismatch _ _ => cases hf
    | failed step _ =>
      cases hf
      obtain ⟨call, output, hlast, ha, hrec⟩ := ht.failure step failure hv
      exact ⟨step, call, output, rfl, hlast, ha, hrec⟩
  · intro error
    have hlen : calls.length + 3 = [Step.reference, .compile, .link, .execute].length ↔
        calls.length = 1 := by
      simp only [List.length_cons, List.length_nil]
      omega
    rw [ht.error error, hlen]
    have hpath : (∃ removal ∈ removals, removal.outcome = .error error) ↔
        ∃ removal ∈ removals, removal.path = case.ir ∧ removal.outcome = .error error :=
      exists_congr fun removal => and_congr_right fun hm =>
        (and_iff_right (ht.removed removal hm)).symm
    rw [hpath]

end Pipeline

end Crosscheck
