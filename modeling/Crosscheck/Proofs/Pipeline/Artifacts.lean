import Crosscheck.Proofs.Corpus
import Crosscheck.Proofs.Pipeline.Course
import Crosscheck.Proofs.Removal

/-! # Artifacts of the run at hand

What a stage finds on the disk is what the stage before it has left there. For the IR the harness
makes sure that this stage wrote it: the path is free when the compiler is started, and the linker is
not started unless something is there afterwards. For the executable it makes sure of nothing: it is
run whenever the linker has exited with status zero, be it that the executable of an earlier run is
still there and the linker has written none.
-/

namespace Crosscheck

variable {σ : Type}

/-- What a call asked for. -/
def Call.order (call : Call) : Purpose × Invocation :=
  (call.purpose, call.invocation)

namespace Pipeline

variable {runner : Runner σ} {tools : Toolchain} {case : TestCase}

/-- What is asked of the runner for the given steps. -/
def orders (tools : Toolchain) (case : TestCase) (steps : List Step) : List (Purpose × Invocation) :=
  steps.map fun step => (.stage case step, tools.invocation case step)

/-! ## Calls in a row -/

/-- Calls with nothing between them, for the first of the given steps, that lead from one world to
another. -/
structure Row (tools : Toolchain) (case : TestCase) (steps : List Step) (w : World σ)
    (calls : List Call) (w' : World σ) : Prop where
  asked : calls.map Call.order <+: orders tools case steps
  first : calls.head?.map Call.before = some w.disk
  last : calls.getLast?.map Call.after = some w'.disk

/-- One more call in front does not change where the calls end. -/
theorem getLast?_cons_map {calls : List Call} {disk : Disk}
    (h : calls.getLast?.map Call.after = some disk) (call : Call) :
    (call :: calls).getLast?.map Call.after = some disk := by
  rw [List.getLast?_cons]
  cases hc : calls.getLast? with
  | none =>
    rw [hc] at h
    cases h
  | some last =>
    rw [hc] at h
    exact h

theorem Row.single (step : Step) (steps : List Step) (w : World σ) (answer : Except Error Output)
    (w' : World σ) :
    Row tools case (step :: steps) w [stepCall tools case w.build step w.disk answer w'.disk]
      w' where
  asked := by simp [stepCall, orders, Call.order]
  first := rfl
  last := rfl

theorem Row.cons {step : Step} {steps : List Step} {w w' w'' : World σ} {calls : List Call}
    (answer : Except Error Output) (h : Row tools case steps w' calls w'') :
    Row tools case (step :: steps) w
      (stepCall tools case w.build step w.disk answer w'.disk :: calls) w'' where
  asked := List.cons_prefix_cons.mpr ⟨rfl, h.asked⟩
  first := rfl
  last := getLast?_cons_map h.last _

section Courses

variable {expected : Bytes} {w : World σ} {events : List Event}
  {ending : Except Error Verdict × World σ}

theorem Executing.row (h : Executing runner tools case expected w events ending) :
    ∃ calls, events = calls.map .call ∧ Row tools case [.execute] w calls ending.2 := by
  cases h with
  | refused _ => exact ⟨[_], rfl, .single ..⟩
  | rejected _ _ => exact ⟨[_], rfl, .single ..⟩
  | judged _ _ => exact ⟨[_], rfl, .single ..⟩

/-- The linker is called, and the executable as well exactly if the linker says that it did its
work. -/
theorem Linking.row (h : Linking runner tools case expected w events ending) :
    ∃ link later, events = (link :: later).map .call ∧
      Row tools case [.link, .execute] w (link :: later) ending.2 ∧
      (∀ run ∈ later.head?, run.before = link.after) ∧
      (later ≠ [] ↔ ∃ output, link.answer = .ok output ∧ output.state = .exited 0) := by
  cases h with
  | refused _ => exact ⟨_, [], rfl, .single .., by simp, by simp [stepCall]⟩
  | failed _ hs => exact ⟨_, [], rfl, .single .., by simp, by simpa [stepCall] using hs⟩
  | linked _ hs h =>
    obtain ⟨calls, rfl, hrow⟩ := h.row
    refine ⟨_, calls, rfl, hrow.cons _, ?_, ?_⟩
    · intro run hrun
      have hfirst := hrow.first
      rw [hrun] at hfirst
      exact Option.some.inj hfirst
    · have hsome : calls ≠ [] := by
        rintro rfl
        cases hrow.first
      simpa [stepCall, hs] using hsome

/-- Old IR is removed, and if that went well then there are calls in a row. -/
theorem Compiling.row (h : Compiling runner tools case expected w events ending) :
    ∃ calls, events = .removal ⟨case.ir, w.disk⟩ :: calls.map .call ∧
      ((calls = [] ∧ ∃ error, ending.1 = .error error ∧
          Removal.outcome ⟨case.ir, w.disk⟩ = .error error) ∨
        Removal.outcome ⟨case.ir, w.disk⟩ = .ok () ∧
          ∃ w₁ : World σ, w₁.disk = Removal.after ⟨case.ir, w.disk⟩ ∧
            Row tools case [.compile, .link, .execute] w₁ calls ending.2) := by
  cases h with
  | stuck hd =>
    exact ⟨[], rfl, .inl ⟨rfl, _, rfl, (World.removed_of_discard hd).outcome⟩⟩
  | refused hd _ =>
    have hremoved := World.removed_of_discard hd
    exact ⟨[_], rfl, .inr ⟨hremoved.outcome, _, hremoved.disk, .single ..⟩⟩
  | failed hd _ _ =>
    have hremoved := World.removed_of_discard hd
    exact ⟨[_], rfl, .inr ⟨hremoved.outcome, _, hremoved.disk, .single ..⟩⟩
  | missing hd _ _ _ =>
    have hremoved := World.removed_of_discard hd
    exact ⟨[_], rfl, .inr ⟨hremoved.outcome, _, hremoved.disk, .single ..⟩⟩
  | compiled hd _ _ _ h =>
    have hremoved := World.removed_of_discard hd
    obtain ⟨link, later, rfl, hrow, -⟩ := h.row
    exact ⟨_ :: link :: later, rfl, .inr ⟨hremoved.outcome, _, hremoved.disk, hrow.cons _⟩⟩

theorem Interpreting.asked (h : Interpreting runner tools case w events ending) :
    (Event.calls events).map Call.order <+:
      orders tools case [.reference, .compile, .link, .execute] := by
  cases h with
  | refused _ => simp [stepEvent, stepCall, orders, Call.order]
  | rejected _ _ => simp [stepEvent, stepCall, orders, Call.order]
  | accepted _ _ h =>
    obtain ⟨calls, rfl, hcalls⟩ := h.row
    simp only [stepEvent, Event.calls_cons_call, Event.calls_cons_removal, Event.calls_map_call]
    refine List.cons_prefix_cons.mpr ⟨rfl, ?_⟩
    rcases hcalls with ⟨rfl, -⟩ | ⟨-, _, -, hrow⟩
    · exact List.nil_prefix
    · exact hrow.asked

/-! ## Up to the linker -/

/-- The calls of a case that got as far as its linker, and the disks between them. -/
structure Linked (case : TestCase) (disk : Disk) (reference compile link : Call)
    (later : List Call) : Prop where
  reference_before : reference.before = disk
  ir_removed : Removal.outcome ⟨case.ir, reference.after⟩ = .ok ()
  compile_before : compile.before = Removal.after ⟨case.ir, reference.after⟩
  ir_written : compile.after.pathExists case.ir = true
  link_before : link.before = compile.after
  run_before : ∀ run ∈ later.head?, run.before = link.after
  run_iff : later ≠ [] ↔ ∃ output, link.answer = .ok output ∧ output.state = .exited 0

theorem Interpreting.linked (h : Interpreting runner tools case w events ending) {link : Call}
    (hlink : (Event.calls events)[2]? = some link) :
    ∃ reference compile later,
      Event.calls events = reference :: compile :: link :: later ∧
      Linked case w.disk reference compile link later := by
  cases h with
  | refused _ => simp [stepEvent] at hlink
  | rejected _ _ => simp [stepEvent] at hlink
  | @accepted expected w₁ _ _ _ _ h =>
    cases h with
    | stuck _ => simp [stepEvent] at hlink
    | refused _ _ => simp [stepEvent] at hlink
    | failed _ _ _ => simp [stepEvent] at hlink
    | missing _ _ _ _ => simp [stepEvent] at hlink
    | @compiled output w₂ w₃ _ _ hd _ _ hir h =>
      have hremoved := World.removed_of_discard hd
      obtain ⟨first, later, rfl, hrow, hrun, hiff⟩ := h.row
      have heq : first = link := by simpa [stepEvent] using hlink
      subst heq
      refine ⟨stepCall tools case w.build .reference w.disk (.ok expected) w₁.disk,
        stepCall tools case w₂.build .compile w₂.disk (.ok output) w₃.disk, later, ?_, ?_⟩
      · simp [stepEvent]
      · exact ⟨rfl, hremoved.outcome, hremoved.disk, hir, Option.some.inj hrow.first, hrun, hiff⟩

end Courses

/-! ## The IR -/

theorem Linked.ir_free {disk : Disk} {reference compile link : Call} {later : List Call}
    (h : Linked case disk reference compile link later) :
    compile.before.pathExists case.ir = false := by
  rw [h.compile_before]
  exact Removal.pathExists_after h.ir_removed

/-- A compilation is not what fails once there is IR. -/
theorem Linking.ne_failed_compile {expected : Bytes} {w : World σ} {events : List Event}
    {ending : Except Error Verdict × World σ}
    (h : Linking runner tools case expected w events ending) (failure : StageFailure) :
    ending.1 ≠ .ok (.failed .compile failure) := by
  cases h with
  | refused _ => simp
  | failed _ _ => simp
  | linked _ _ h =>
    cases h with
    | refused _ => simp
    | rejected _ _ => simp
    | judged _ _ =>
      unfold judge
      split <;> simp

theorem Interpreting.ir_missing {w : World σ} {events : List Event}
    {ending : Except Error Verdict × World σ} (h : Interpreting runner tools case w events ending)
    {failure : StageFailure} (hv : ending.1 = .ok (.failed .compile failure))
    (hr : failure.reason.isSome = true) : ending.2.disk.pathExists case.ir = false := by
  cases h with
  | refused _ => cases hv
  | rejected _ _ => cases hv
  | accepted _ _ h =>
    cases h with
    | stuck _ => cases hv
    | refused _ _ => cases hv
    | failed _ _ _ =>
      cases hv
      cases hr
    | missing _ _ _ hir => exact hir
    | compiled _ _ _ _ h => exact absurd hv (h.ne_failed_compile failure)

/-- When the linker is called, the call before it is that of the compiler; the IR path led nowhere
when that was made, and it did lead to something right after it, which is what the linker finds. A
compilation that failed with a reason leaves no IR. -/
theorem linker_finds_fresh_ir (runner : Runner σ) (tools : Toolchain) (case : TestCase)
    (w : World σ) :
    ∃ calls,
      (execute runner tools case w).2.journal = w.journal ++ calls ∧
      calls.map Call.order <+: orders tools case [.reference, .compile, .link, .execute] ∧
      (∀ link, calls[2]? = some link →
        ∃ compile, calls[1]? = some compile ∧
          compile.before.pathExists case.ir = false ∧ compile.after.pathExists case.ir = true ∧
          link.before = compile.after) ∧
      ∀ failure, (execute runner tools case w).1 = .ok (.failed .compile failure) →
        failure.reason.isSome = true →
        (execute runner tools case w).2.disk.pathExists case.ir = false := by
  obtain ⟨events, h⟩ := execute_interpreting runner tools case w
  generalize execute runner tools case w = ending at h ⊢
  refine ⟨Event.calls events, h.unfolds.journal, h.asked, ?_, fun failure => h.ir_missing⟩
  intro link hlink
  obtain ⟨reference, compile, later, hcalls, hlinked⟩ := h.linked hlink
  refine ⟨compile, by rw [hcalls]; rfl, hlinked.ir_free, hlinked.ir_written, hlinked.link_before⟩

/-! ## The executable -/

/-- Nothing is at the path of the executable when the case begins, and neither of the two calls before
the linker puts anything there. -/
structure Clean (case : TestCase) (disk : Disk) (calls : List Call) : Prop where
  free : disk.pathExists case.executable = false
  kept : ∀ call ∈ calls.take 2, call.before.pathExists case.executable = false →
    call.after.pathExists case.executable = false

/-- The removal of old IR between the first two calls does not put anything at the path either. -/
theorem Linked.executable_free {disk : Disk} {reference compile link : Call} {later : List Call}
    (h : Linked case disk reference compile link later)
    (hclean : Clean case disk (reference :: compile :: link :: later)) :
    link.before.pathExists case.executable = false := by
  have hreference : reference.after.pathExists case.executable = false := by
    apply hclean.kept reference (by simp)
    rw [h.reference_before]
    exact hclean.free
  have hcompile : compile.before.pathExists case.executable = false := by
    rw [h.compile_before, ← Bool.not_eq_true]
    intro hthere
    rw [Removal.pathExists_of_after hthere] at hreference
    cases hreference
  rw [h.link_before]
  exact hclean.kept compile (by simp) hcompile

/-- The executable is run exactly if the linker was called and exited with status zero, and it finds
the disk as the linker has left it, which found it as the compiler did. Whether there is an
executable, and since when, is not looked at. In a clean case it cannot be older than the linker's
call, since nothing was at its path before. -/
theorem executable_runs_iff_linker_exits (runner : Runner σ) (tools : Toolchain) (case : TestCase)
    (w : World σ) :
    ∃ calls,
      (execute runner tools case w).2.journal = w.journal ++ calls ∧
      calls.map Call.order <+: orders tools case [.reference, .compile, .link, .execute] ∧
      (∀ link, calls[2]? = some link →
        ((∃ run, calls[3]? = some run) ↔
          ∃ output, link.answer = .ok output ∧ output.state = .exited 0)) ∧
      ∀ run, calls[3]? = some run →
        ∃ compile link, calls[1]? = some compile ∧ calls[2]? = some link ∧
          link.before = compile.after ∧ run.before = link.after ∧
          (Clean case w.disk calls → link.before.pathExists case.executable = false) := by
  obtain ⟨events, h⟩ := execute_interpreting runner tools case w
  refine ⟨Event.calls events, h.unfolds.journal, h.asked, ?_, ?_⟩
  · intro link hlink
    obtain ⟨reference, compile, later, hcalls, hlinked⟩ := h.linked hlink
    rw [hcalls, ← hlinked.run_iff]
    cases later <;> simp
  · intro run hrun
    obtain ⟨link, hlink⟩ : ∃ link, (Event.calls events)[2]? = some link := by
      have hlength := (List.getElem?_eq_some_iff.mp hrun).1
      exact ⟨_, List.getElem?_eq_getElem (by omega)⟩
    obtain ⟨reference, compile, later, hcalls, hlinked⟩ := h.linked hlink
    have hlater : later.head? = some run := by
      rw [hcalls] at hrun
      simpa [List.head?_eq_getElem?] using hrun
    refine ⟨compile, link, by rw [hcalls]; rfl, hlink, hlinked.link_before,
      hlinked.run_before run hlater, ?_⟩
    rw [hcalls]
    exact hlinked.executable_free

/-! ## An executable that was left over -/

def soleTools : Toolchain := .ofSettings {}

/-- The case of the one program under the layout as it comes. -/
def loneCase : TestCase := ⟨"a", "tests/a.scheme", "tests/a.ll", "./a"⟩

/-- Everything is done well: the compiler writes its IR, and the linker makes the given changes. -/
def soleReplies (linking : List Change) : List Reply :=
  [{ answer := fun _ => .ok { state := .exited 0, stdout := [0x33] } },
    { changes := [.write "tests/a.ll" [0x69, 0x72] false]
      answer := fun _ => .ok { state := .exited 0 } },
    { changes := linking, answer := fun _ => .ok { state := .exited 0 } },
    { answer := fun _ => .ok { state := .exited 0, stdout := [0x33] } }]

def freshEnding : Except Error Verdict × World (List Reply) :=
  execute .scripted soleTools loneCase
    (World.start (soleReplies [.write "a" [0x6e, 0x65, 0x77] true]) Layout.loneDisk .built)

/-- In a clean case whose linker writes an executable, that is the one which is run. -/
theorem freshEnding_runs_new_executable :
    Clean loneCase Layout.loneDisk freshEnding.2.journal ∧
    ∃ link run, freshEnding.2.journal[2]? = some link ∧ freshEnding.2.journal[3]? = some run ∧
      link.before.pathExists loneCase.executable = false ∧ run.before = link.after ∧
      run.before.stat loneCase.executable = .ok (.file [0x6e, 0x65, 0x77] true) := by
  have hfree : ((freshEnding.2.journal.take 2).all fun call =>
      !call.after.pathExists loneCase.executable) = true := rfl
  have hclean : Clean loneCase Layout.loneDisk freshEnding.2.journal := by
    refine ⟨rfl, ?_⟩
    intro call hmem _
    simpa using List.all_eq_true.mp hfree call hmem
  obtain ⟨calls, hjournal, -, -, hruns⟩ := executable_runs_iff_linker_exits .scripted soleTools
    loneCase
    (World.start (soleReplies [.write "a" [0x6e, 0x65, 0x77] true]) Layout.loneDisk .built)
  obtain rfl : freshEnding.2.journal = calls := hjournal
  obtain ⟨_, link, -, hlink, -, hbefore, hclear⟩ := hruns _ rfl
  exact ⟨hclean, link, _, hlink, rfl, hclear hclean, hbefore, rfl⟩

def staleEnding : Except Error Verdict × World (List Reply) :=
  execute .scripted soleTools loneCase
    (World.start (soleReplies [])
      (Layout.loneDisk.set ["work", "a"] (.file [0x6f, 0x6c, 0x64] true)) .built)

/-- An executable was left over, and the linker exits with status zero and writes nothing. The old
file is there when the linker is called, it is the one that is run, and the case passes. -/
theorem staleEnding_passes_old_executable :
    staleEnding.1 = .ok .pass ∧
    staleEnding.2.journal.map Call.order =
      orders soleTools loneCase [.reference, .compile, .link, .execute] ∧
    staleEnding.2.journal.map (fun call => call.before.stat loneCase.executable) =
      List.replicate 4 (.ok (.file [0x6f, 0x6c, 0x64] true)) :=
  ⟨rfl, rfl, rfl⟩

end Pipeline

end Crosscheck
