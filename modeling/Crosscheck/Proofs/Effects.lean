import Crosscheck.Proofs.Run
import Crosscheck.Proofs.Pipeline.Artifacts

/-! # What a case does to the disk

A case calls the build if need be, then up to four stages, and it removes up to two files: its IR
after a reference that was accepted, and its executable after a pass. The main statement says that
this, in this order, is the whole history of the disk, and what it means for the executable.
-/

namespace Crosscheck

variable {σ : Type}

/-- The process ended with status zero, and all that it wrote was kept. -/
def Call.accepted (call : Call) : Bool :=
  match call.answer with
  | .ok output => decide (output.state = .exited 0) && !output.stdoutCut
  | .error _ => false

/-- Calls with removals between the first and the second of them. -/
def Event.around (calls : List Call) (removals : List Removal) : List Event :=
  (calls.take 1).map .call ++ removals.map .removal ++ (calls.drop 1).map .call

/-- A removal that fails for another reason than that nothing is there leaves the disk as it is, and
the reason is reported. -/
theorem Removal.refused_of_unlink {removal : Removal} {fault : Fault}
    (h : removal.before.unlink removal.path = .error fault) (hf : fault ≠ .notFound) :
    removal.after = removal.before ∧
      removal.outcome = .error (.io removal.path "cannot remove artifact" fault.message) := by
  unfold after outcome
  rw [h]
  cases fault with
  | notFound => exact absurd rfl hf
  | _ => exact ⟨rfl, rfl⟩

theorem Verdict.isPass_iff {verdict : Verdict} : verdict.isPass = true ↔ verdict = .pass := by
  cases verdict <;> simp [isPass]

/-! ## The gate -/

theorem Gate.Visited.unfolds {gate : Gate} {runner : Runner σ} {w : World σ}
    {ending : Except Error Unit × World σ} (h : Visited gate runner w ending) :
    ∃ build : List Call, w.Unfolds runner (build.map .call) ending.2 ∧
      build.map Call.order <+: [(.build, gate.command)] := by
  have hstart : w.Unfolds runner [] { w with latch := { building := true } } :=
    (World.Unfolds.refl runner w).relatch _
  cases h with
  | settled _ => exact ⟨[], .refl runner w, List.nil_prefix⟩
  | refused _ hc => exact ⟨[_], (hstart.trans (.call hc)).relatch _, List.prefix_rfl⟩
  | answered _ hc => exact ⟨[_], (hstart.trans (.call hc)).relatch _, List.prefix_rfl⟩

/-! ## The pipeline -/

namespace Pipeline

variable {runner : Runner σ} {tools : Toolchain} {case : TestCase}

theorem accepted_stepCall (step : Step) (build : BuildState) (before after : Disk)
    (output : Output) :
    (stepCall tools case build step before (.ok output) after).accepted =
      (rejectOutput tools case step output).isNone := by
  rw [Bool.eq_iff_iff, Option.isNone_iff_eq_none, rejectOutput_eq_none_iff]
  simp [stepCall, Call.accepted]

/-- The calls of the stages and the removals of old IR on a way through the pipeline. -/
structure Staged (tools : Toolchain) (case : TestCase) (ending : Except Error Verdict × World σ)
    (stages : List Call) (stale : List Removal) : Prop where
  asked : stages.map Call.order <+: orders tools case [.reference, .compile, .link, .execute]
  removed : stale.map Removal.path = if stages.head?.any Call.accepted then [case.ir] else []
  refused : ∀ removal ∈ stale, ∀ error, removal.outcome = .error error → ending.1 = .error error
  last : ∀ verdict, ending.1 = .ok verdict →
    stages.getLast?.map Call.after = some ending.2.disk

theorem Interpreting.staged {w : World σ} {events : List Event}
    {ending : Except Error Verdict × World σ} (h : Interpreting runner tools case w events ending) :
    ∃ stages stale, events = Event.around stages stale ∧
      Staged tools case ending stages stale := by
  have hasked := h.asked
  cases h with
  | @refused error w' hc =>
    refine ⟨[stepCall tools case w.build .reference w.disk (.error error) w'.disk], [], rfl,
      hasked, rfl, by simp, ?_⟩
    intro verdict hv
    cases hv
  | @rejected output failure w' hc hr =>
    refine ⟨[stepCall tools case w.build .reference w.disk (.ok output) w'.disk], [], rfl,
      hasked, ?_, by simp, fun _ _ => rfl⟩
    simp [accepted_stepCall, hr]
  | @accepted output w' events _ hc hr h =>
    obtain ⟨calls, rfl, hcalls⟩ := h.row
    refine ⟨stepCall tools case w.build .reference w.disk (.ok output) w'.disk :: calls,
      [⟨case.ir, w'.disk⟩], rfl, ?_, ?_, ?_, ?_⟩
    · simpa [stepEvent] using hasked
    · simp [accepted_stepCall, hr]
    · intro removal hmem error ho
      obtain rfl := List.mem_singleton.mp hmem
      rcases hcalls with ⟨-, _, he, hstuck⟩ | ⟨hdone, -⟩
      · cases hstuck.symm.trans ho
        exact he
      · cases hdone.symm.trans ho
    · intro verdict hv
      rcases hcalls with ⟨-, _, he, -⟩ | ⟨-, _, -, hrow⟩
      · cases he.symm.trans hv
      · exact getLast?_cons_map hrow.last _

end Pipeline

/-! ## The whole case -/

namespace Driver

/-- The verdict that the pipeline comes to behind the gate, if it comes to one. -/
def verdict? (driver : Driver) (runner : Runner σ) (case : TestCase) (w : World σ) :
    Option Verdict :=
  match driver.gate.ensureBuilt runner w with
  | (.error _, _) => none
  | (.ok (), w) => (Pipeline.execute runner driver.tools case w).1.toOption

/-- What a case did to the disk: the calls of the build and of the stages, the removal of old IR, and
the removal of the executable at the end. -/
structure Effects (driver : Driver) (runner : Runner σ) (case : TestCase) (w : World σ)
    (ending : Except Error Outcome × World σ) (build stages : List Call)
    (stale done : List Removal) : Prop where
  unfolds : w.Unfolds runner
    (build.map .call ++ Event.around stages stale ++ done.map .removal) ending.2
  build_asked : build.map Call.order <+: [(.build, driver.gate.command)]
  stages_asked : stages.map Call.order <+:
    Pipeline.orders driver.tools case [.reference, .compile, .link, .execute]
  ir_removed : stale.map Removal.path =
    if stages.head?.any Call.accepted then [case.ir] else []
  executable_removed : done.map Removal.path =
    if driver.verdict? runner case w = some .pass then [case.executable] else []
  refused : ∀ removal ∈ stale ++ done, ∀ fault,
    removal.before.unlink removal.path = .error fault → fault ≠ .notFound →
      removal.after = removal.before ∧
        ending.1 = .error (.io removal.path "cannot remove artifact" fault.message)
  ended : ∀ outcome, ending.1 = .ok outcome →
    driver.verdict? runner case w = some outcome.verdict ∧
      (outcome.verdict = .pass → ending.2.disk.pathExists case.executable = false) ∧
      (outcome.verdict ≠ .pass → stages.getLast?.map Call.after = some ending.2.disk)

/-- The way of a case to the end of the pipeline. -/
structure Through (driver : Driver) (runner : Runner σ) (case : TestCase) (w : World σ)
    (ending : Except Error Verdict × World σ) (build stages : List Call) (stale : List Removal) :
    Prop extends Pipeline.Staged driver.tools case ending stages stale where
  unfolds : w.Unfolds runner (build.map .call ++ Event.around stages stale) ending.2
  build_asked : build.map Call.order <+: [(.build, driver.gate.command)]
  verdict : driver.verdict? runner case w = ending.1.toOption

variable {driver : Driver} {runner : Runner σ} {case : TestCase} {w w₁ w₂ w₃ : World σ}
  {build stages : List Call} {stale : List Removal}

theorem exists_through {ending : Except Error Verdict × World σ}
    (hg : driver.gate.ensureBuilt runner w = (.ok (), w₁))
    (hx : Pipeline.execute runner driver.tools case w₁ = ending) :
    ∃ build stages stale, Through driver runner case w ending build stages stale := by
  obtain ⟨build, hbuild, hasked⟩ := (driver.gate.ensureBuilt_visited runner w).unfolds
  obtain ⟨events, hevents⟩ := Pipeline.execute_interpreting runner driver.tools case w₁
  obtain ⟨stages, stale, rfl, hstaged⟩ := hevents.staged
  have hunfolds := hevents.unfolds
  rw [hg] at hbuild
  rw [hx] at hstaged hunfolds
  refine ⟨build, stages, stale, hstaged, hbuild.trans hunfolds, hasked, ?_⟩
  simp only [verdict?, hg, hx]

theorem refused_of_outcome {removals : List Removal} {item : Except Error Outcome}
    (h : ∀ removal ∈ removals, ∀ error, removal.outcome = .error error → item = .error error) :
    ∀ removal ∈ removals, ∀ fault,
      removal.before.unlink removal.path = .error fault → fault ≠ .notFound →
        removal.after = removal.before ∧
          item = .error (.io removal.path "cannot remove artifact" fault.message) := by
  intro removal hmem fault hunlink hfault
  obtain ⟨hafter, houtcome⟩ := Removal.refused_of_unlink hunlink hfault
  exact ⟨hafter, h removal hmem _ houtcome⟩

/-- A gate that stays shut ends the case with the build. -/
theorem exists_effects_of_refused (case : TestCase) {error : Error}
    (hg : driver.gate.ensureBuilt runner w = (.error error, w₁)) :
    ∃ build, Effects driver runner case w (.error error, w₁) build [] [] [] := by
  obtain ⟨build, hunfolds, hasked⟩ := (driver.gate.ensureBuilt_visited runner w).unfolds
  rw [hg] at hunfolds
  refine ⟨build, by simpa [Event.around] using hunfolds, hasked, List.nil_prefix, rfl, ?_,
    by simp, ?_⟩
  · simp [verdict?, hg]
  · intro outcome ho
    cases ho

/-- Without a pass the case is over with the pipeline. -/
theorem Through.effects_of_ne_pass {result : Except Error Verdict}
    (h : Through driver runner case w (result, w₂) build stages stale) (hr : result ≠ .ok .pass) :
    Effects driver runner case w (result.map (Outcome.mk case.name), w₂) build stages stale [] where
  unfolds := by simpa using h.unfolds
  build_asked := h.build_asked
  stages_asked := h.asked
  ir_removed := h.removed
  executable_removed := by
    rw [h.verdict, if_neg]
    · rfl
    · cases result with
      | error error => simp [Except.toOption]
      | ok verdict => simpa [Except.toOption] using hr
  refused := by
    apply refused_of_outcome
    rw [List.append_nil]
    intro removal hmem error ho
    obtain rfl : result = .error error := h.refused removal hmem error ho
    rfl
  ended := by
    intro outcome ho
    cases result with
    | error error => cases ho
    | ok verdict =>
      cases ho
      exact ⟨h.verdict, fun hpass => absurd (congrArg Except.ok hpass) hr,
        fun _ => h.last verdict rfl⟩

/-- After a pass the executable is removed, and the case ends as that does. -/
theorem Through.effects_of_pass {removed : Except Error Unit}
    (h : Through driver runner case w (.ok .pass, w₂) build stages stale)
    (hd : w₂.discard case.executable = (removed, w₃)) :
    Effects driver runner case w (removed.map fun _ => ⟨case.name, .pass⟩, w₃) build stages stale
      [⟨case.executable, w₂.disk⟩] where
  unfolds := h.unfolds.trans (.discard hd)
  build_asked := h.build_asked
  stages_asked := h.asked
  ir_removed := h.removed
  executable_removed := by
    rw [h.verdict]
    rfl
  refused := by
    apply refused_of_outcome
    intro removal hmem error ho
    rcases List.mem_append.mp hmem with hstale | hdone
    · cases h.refused removal hstale error ho
    · obtain rfl := List.mem_singleton.mp hdone
      rw [(World.removed_of_discard hd).outcome.symm.trans ho]
      rfl
  ended := by
    have hremoved := World.removed_of_discard hd
    intro outcome ho
    cases removed with
    | error error => cases ho
    | ok _ =>
      cases ho
      refine ⟨h.verdict, fun _ => ?_, fun hpass => absurd rfl hpass⟩
      rw [hremoved.disk]
      exact Removal.pathExists_after hremoved.outcome

/-- The whole history of the disk through a case. The build may be called, then the stages, each at
most once and in their order. Old IR is removed between the first stage and the second, exactly if
the first was accepted; the executable is removed in the end, exactly if the verdict is a pass.
Nothing else happens to the disk. A removal that is refused changes nothing and is what the case ends
with. A case that passed leaves no executable, and one with another verdict leaves the disk as its
last process did. -/
theorem runCase_effects (driver : Driver) (runner : Runner σ) (case : TestCase) (w : World σ) :
    ∃ build stages stale done,
      Effects driver runner case w (driver.runCase runner case w) build stages stale done := by
  have h := driver.runCase_handled runner case w
  generalize driver.runCase runner case w = ending at h ⊢
  cases h with
  | refused hg =>
    obtain ⟨build, h⟩ := exists_effects_of_refused case hg
    exact ⟨build, [], [], [], h⟩
  | stopped hg hx =>
    obtain ⟨build, stages, stale, h⟩ := exists_through hg hx
    exact ⟨build, stages, stale, [], h.effects_of_ne_pass (by simp)⟩
  | failed hg hx hv =>
    obtain ⟨build, stages, stale, h⟩ := exists_through hg hx
    refine ⟨build, stages, stale, [], h.effects_of_ne_pass ?_⟩
    rintro ⟨⟩
    cases hv
  | @stuck error verdict _ _ _ hg hx hv hd =>
    obtain rfl : verdict = .pass := Verdict.isPass_iff.mp hv
    obtain ⟨build, stages, stale, h⟩ := exists_through hg hx
    exact ⟨build, stages, stale, _, h.effects_of_pass hd⟩
  | @passed verdict _ _ _ hg hx hv hd =>
    obtain rfl : verdict = .pass := Verdict.isPass_iff.mp hv
    obtain ⟨build, stages, stale, h⟩ := exists_through hg hx
    exact ⟨build, stages, stale, _, h.effects_of_pass hd⟩

end Driver

end Crosscheck
