import Crosscheck.Proofs.Coupling
import Crosscheck.Proofs.Progress
import Crosscheck.Proofs.Tally
import Crosscheck.Reaction

/-! # Diagnostics decide nothing

Two sessions are compared whose processes say different things on their standard error, and also on
their standard output where nobody compares it. Each part of a session has a quiet form from which
all that has been left out. Sessions with the same quiet answers are the same in their quiet form,
move by move.
-/

namespace Crosscheck

variable {σ τ : Type}

/-! ## Quiet forms -/

def StageFailure.quiet (failure : StageFailure) : StageFailure :=
  { failure with stderr := [] }

def Outcome.quiet (outcome : Outcome) : Outcome :=
  outcome.mapFailure StageFailure.quiet

def Error.quiet : Error → Error
  | .build command state _ => .build command state ""
  | error => error

def Outcome.quietItem (item : Except Error Outcome) : Except Error Outcome :=
  (item.map Outcome.quiet).mapError Error.quiet

def BuildFailure.quiet (failure : BuildFailure) : BuildFailure :=
  { failure with stderr := "" }

def BuildState.quiet : BuildState → BuildState
  | .failed failure => .failed failure.quiet
  | state => state

def Latch.quiet (latch : Latch) : Latch :=
  ⟨latch.building, latch.outcome.map (Except.mapError BuildFailure.quiet)⟩

/-- Whether what a process writes is compared with something. -/
def Purpose.compared : Purpose → Bool
  | .stage _ .reference | .stage _ .execute => true
  | .build | .stage _ .compile | .stage _ .link => false

/-- Only a process that has succeeded is listened to, if its output is compared at all. -/
def Output.quiet (purpose : Purpose) (output : Output) : Output :=
  if purpose.compared ∧ output.state = .exited 0 then
    { state := output.state, stdout := output.stdout, stdoutCut := output.stdoutCut }
  else { state := output.state }

def Call.quiet (call : Call) : Call :=
  { call with build := call.build.quiet, answer := call.answer.map (Output.quiet call.purpose) }

def World.quiet (w : World σ) : World Unit :=
  ⟨(), w.disk, w.latch.quiet, w.journal.map Call.quiet, w.removals⟩

def Entry.quiet (entry : Entry σ) : Entry Unit :=
  ⟨entry.move, entry.given.map Outcome.quietItem, entry.before.quiet, entry.after.quiet⟩

/-- The same question on the same disk has got the same quiet answer and left the same disk. -/
def Call.Agrees (call call' : Call) : Prop :=
  call.order = call'.order → call.before = call'.before →
    call.answer.map (Output.quiet call.purpose) = call'.answer.map (Output.quiet call'.purpose) ∧
      call.after = call'.after

def AgreeInTurn (calls calls' : List Call) : Prop :=
  ∀ (i : Nat) call call', calls[i]? = some call → calls'[i]? = some call' → call.Agrees call'

theorem AgreeInTurn.earlier {calls later calls' later' : List Call} (hcalls : calls <+: later)
    (hcalls' : calls' <+: later') (h : AgreeInTurn later later') : AgreeInTurn calls calls' := by
  intro i call call' hi hi'
  obtain ⟨hlt, rfl⟩ := List.getElem?_eq_some_iff.mp hi
  obtain ⟨hlt', rfl⟩ := List.getElem?_eq_some_iff.mp hi'
  exact h i _ _ (List.prefix_iff_getElem?.mp hcalls i hlt)
    (List.prefix_iff_getElem?.mp hcalls' i hlt')

/-! ## One call -/

theorem World.quiet_eq_iff {w : World σ} {w' : World τ} :
    w.quiet = w'.quiet ↔
      w.disk = w'.disk ∧ w.latch.quiet = w'.latch.quiet ∧
        w.journal.map Call.quiet = w'.journal.map Call.quiet ∧ w.removals = w'.removals := by
  simp [World.quiet]

/-- The state that is seen has the quiet form of what is remembered. -/
theorem Latch.state_quiet (latch : Latch) : latch.quiet.state = latch.state.quiet := by
  obtain ⟨building, outcome⟩ := latch
  rcases outcome with _ | (failure | _)
  · cases building <;> rfl
  · rfl
  · rfl

theorem Output.state_eq_of_quiet {purpose : Purpose} {output output' : Output}
    (h : output.quiet purpose = output'.quiet purpose) : output.state = output'.state := by
  have hstate : ∀ output : Output, (output.quiet purpose).state = output.state := by
    intro output
    unfold quiet
    split <;> rfl
  rw [← hstate output, h, hstate]

theorem Output.stdout_eq_of_quiet {purpose : Purpose} {output output' : Output}
    (h : output.quiet purpose = output'.quiet purpose) (hp : purpose.compared = true)
    (hs : output.state = .exited 0) :
    output.stdout = output'.stdout ∧ output.stdoutCut = output'.stdoutCut := by
  have hs' := (state_eq_of_quiet h).symm.trans hs
  unfold quiet at h
  rw [if_pos ⟨hp, hs⟩, if_pos ⟨hp, hs'⟩, Output.mk.injEq] at h
  exact ⟨h.2.1, h.2.2.2.1⟩

section

variable {runner : Runner σ} {runner' : Runner τ} {w : World σ} {w' : World τ}

theorem World.call_quiet (runner : Runner σ) (runner' : Runner τ) (hw : w.quiet = w'.quiet)
    (purpose : Purpose) (invocation : Invocation)
    (hagree : AgreeInTurn (w.call runner purpose invocation).2.journal
      (w'.call runner' purpose invocation).2.journal) :
    (w.call runner purpose invocation).1.map (Output.quiet purpose) =
      (w'.call runner' purpose invocation).1.map (Output.quiet purpose) ∧
    (w.call runner purpose invocation).2.quiet = (w'.call runner' purpose invocation).2.quiet := by
  obtain ⟨hdisk, hlatch, hjournal, hremovals⟩ := World.quiet_eq_iff.mp hw
  have hbuild : w.build.quiet = w'.build.quiet := by
    rw [World.build, World.build, ← Latch.state_quiet, hlatch, Latch.state_quiet]
  rcases hc : w.call runner purpose invocation with ⟨answer, w₁⟩
  rcases hc' : w'.call runner' purpose invocation with ⟨answer', w₁'⟩
  have hcalled := World.called_of_call hc
  have hcalled' := World.called_of_call hc'
  rw [hc, hc', hcalled.journal, hcalled'.journal] at hagree
  -- The new calls stand at the same place of the two journals.
  have hlength : w.journal.length = w'.journal.length := by
    simpa using congrArg List.length hjournal
  have hnew := fun call => hagree w.journal.length _ call List.getElem?_concat_length
  rw [hlength] at hnew
  obtain ⟨hanswer, hafter⟩ := hnew _ List.getElem?_concat_length rfl hdisk
  simp only at hanswer hafter
  refine ⟨hanswer, World.quiet_eq_iff.mpr ⟨hafter, ?_, ?_, ?_⟩⟩
  · rw [hcalled.latch, hcalled'.latch]
    exact hlatch
  · rw [hcalled.journal, hcalled'.journal, List.map_append, List.map_append, hjournal]
    simp only [List.map_cons, List.map_nil, Call.quiet]
    rw [hbuild, hdisk, hanswer, hafter]
  · rw [hcalled.removals, hcalled'.removals]
    exact hremovals

/-! ## One case -/

theorem Pipeline.answered_of_quiet {tools : Toolchain} {case : TestCase} {step : Step}
    {answer answer' : Except Error Output}
    (h : answer.map (Output.quiet (.stage case step)) =
      answer'.map (Output.quiet (.stage case step))) :
    Answered (Alike tools case StageFailure.quiet step) answer answer' := by
  cases answer with
  | error error =>
    cases answer' with
    | error error' =>
      cases h
      exact .refused error
    | ok output' => cases h
  | ok output =>
    cases answer' with
    | error error' => cases h
    | ok output' =>
      have hquiet := Except.ok.inj h
      have hstate := Output.state_eq_of_quiet hquiet
      refine .given ⟨hstate, ?_, ?_⟩
      · intro hstep
        apply Output.stdout_eq_of_quiet hquiet
        rcases hstep with rfl | rfl <;> rfl
      · intro reason
        simp only [StageFailure.quiet, failureOf, hstate]

/-- The pipeline is blind to what the quiet forms leave out. -/
theorem Pipeline.coupling_quiet (runner : Runner σ) (runner' : Runner τ) (tools : Toolchain)
    (case : TestCase) :
    Coupling runner runner' tools case StageFailure.quiet AgreeInTurn
      (fun w w' => w.quiet = w'.quiet) where
  earlier := AgreeInTurn.earlier
  call step hw hagree := by
    obtain ⟨hanswer, hquiet⟩ := World.call_quiet runner runner' hw _ _ hagree
    exact ⟨answered_of_quiet hanswer, hquiet⟩
  discard path _ hw := by
    obtain ⟨hdisk, hlatch, hjournal, hremovals⟩ := World.quiet_eq_iff.mp hw
    unfold World.discard
    rw [hdisk]
    refine ⟨rfl, World.quiet_eq_iff.mpr ⟨rfl, hlatch, hjournal, ?_⟩⟩
    simp only [hremovals]
  written hw := by rw [(World.quiet_eq_iff.mp hw).1]

namespace Gate

theorem report_quiet {outcome outcome' : Except BuildFailure Unit}
    (h : outcome.mapError BuildFailure.quiet = outcome'.mapError BuildFailure.quiet) :
    (report outcome).mapError Error.quiet = (report outcome').mapError Error.quiet := by
  have hquiet : ∀ outcome, (report outcome).mapError Error.quiet =
      (report (outcome.mapError BuildFailure.quiet)).mapError Error.quiet := by
    intro outcome
    cases outcome <;> rfl
  rw [hquiet outcome, h, ← hquiet outcome']

theorem settle_quiet (gate : Gate) {output output' : Output} (h : output.state = output'.state) :
    (gate.settle output).mapError BuildFailure.quiet =
      (gate.settle output').mapError BuildFailure.quiet := by
  unfold settle Output.success
  rw [h]
  split <;> rfl

theorem ensureBuilt_quiet (gate : Gate) (hw : w.quiet = w'.quiet)
    (hagree : AgreeInTurn (gate.ensureBuilt runner w).2.journal
      (gate.ensureBuilt runner' w').2.journal) :
    (gate.ensureBuilt runner w).1.mapError Error.quiet =
      (gate.ensureBuilt runner' w').1.mapError Error.quiet ∧
    (gate.ensureBuilt runner w).2.quiet = (gate.ensureBuilt runner' w').2.quiet := by
  obtain ⟨hdisk, hlatch, hjournal, hremovals⟩ := World.quiet_eq_iff.mp hw
  have hout : w.latch.outcome.map (Except.mapError BuildFailure.quiet) =
      w'.latch.outcome.map (Except.mapError BuildFailure.quiet) := congrArg Latch.outcome hlatch
  have hbuilding : { w with latch := { building := true } }.quiet =
      { w' with latch := { building := true } }.quiet :=
    World.quiet_eq_iff.mpr ⟨hdisk, rfl, hjournal, hremovals⟩
  have hcalls := World.call_quiet runner runner' hbuilding .build gate.command
  have hv := gate.ensureBuilt_visited runner w
  have hv' := gate.ensureBuilt_visited runner' w'
  generalize gate.ensureBuilt runner w = ending at hv hagree ⊢
  generalize gate.ensureBuilt runner' w' = ending' at hv' hagree ⊢
  -- Both gates are settled, or both are not and the command gets the same quiet answer.
  cases hv with
  | settled hs =>
    rw [hs] at hout
    cases hv' with
    | settled hs' =>
      rw [hs'] at hout
      exact ⟨report_quiet (Option.some.inj hout), hw⟩
    | refused hs' _ =>
      rw [hs'] at hout
      cases hout
    | answered hs' _ =>
      rw [hs'] at hout
      cases hout
  | refused hs hc =>
    rw [hs] at hout
    cases hv' with
    | settled hs' =>
      rw [hs'] at hout
      cases hout
    | refused _ hc' =>
      rw [hc, hc'] at hcalls
      obtain ⟨hanswer, hquiet⟩ := hcalls hagree
      obtain ⟨hdisk₁, -, hjournal₁, hremovals₁⟩ := World.quiet_eq_iff.mp hquiet
      cases hanswer
      exact ⟨rfl, World.quiet_eq_iff.mpr ⟨hdisk₁, rfl, hjournal₁, hremovals₁⟩⟩
    | answered _ hc' =>
      rw [hc, hc'] at hcalls
      cases (hcalls hagree).1
  | answered hs hc =>
    rw [hs] at hout
    cases hv' with
    | settled hs' =>
      rw [hs'] at hout
      cases hout
    | refused _ hc' =>
      rw [hc, hc'] at hcalls
      cases (hcalls hagree).1
    | answered _ hc' =>
      rw [hc, hc'] at hcalls
      obtain ⟨hanswer, hquiet⟩ := hcalls hagree
      obtain ⟨hdisk₁, -, hjournal₁, hremovals₁⟩ := World.quiet_eq_iff.mp hquiet
      have hsettle := gate.settle_quiet (Output.state_eq_of_quiet (Except.ok.inj hanswer))
      refine ⟨report_quiet hsettle, World.quiet_eq_iff.mpr ⟨hdisk₁, ?_, hjournal₁, hremovals₁⟩⟩
      simp only [Latch.quiet, Option.map_some, hsettle]

end Gate

namespace Driver

theorem runCase_quiet (driver : Driver) (case : TestCase) (hw : w.quiet = w'.quiet)
    (hagree : AgreeInTurn (driver.runCase runner case w).2.journal
      (driver.runCase runner' case w').2.journal) :
    Outcome.quietItem (driver.runCase runner case w).1 =
      Outcome.quietItem (driver.runCase runner' case w').1 ∧
    (driver.runCase runner case w).2.quiet = (driver.runCase runner' case w').2.quiet := by
  obtain ⟨hpassed, hw₁⟩ := driver.gate.ensureBuilt_quiet hw (hagree.earlier
    (driver.ensureBuilt_prefix_runCase runner case w)
    (driver.ensureBuilt_prefix_runCase runner' case w'))
  rcases hg : driver.gate.ensureBuilt runner w with ⟨passed, w₁⟩
  rcases hg' : driver.gate.ensureBuilt runner' w' with ⟨passed', w₁'⟩
  rw [hg, hg'] at hpassed hw₁
  cases passed with
  | error error =>
    cases passed' with
    | error error' =>
      have herror : error.quiet = error'.quiet := Except.error.inj hpassed
      unfold runCase
      rw [hg, hg']
      exact ⟨congrArg Except.error herror, hw₁⟩
    | ok _ => cases hpassed
  | ok _ =>
    cases passed' with
    | error error' => cases hpassed
    | ok _ =>
      obtain ⟨hitem, hw₂⟩ := runCase_paired
        (Pipeline.coupling_quiet runner runner' driver.tools case) hg hg' hw₁ hagree
      exact ⟨congrArg (Except.mapError Error.quiet) hitem, hw₂⟩

/-- Whether an item ends its run can be told from its quiet form. -/
theorem endsRun_quietItem (driver : Driver) (item : Except Error Outcome) :
    driver.endsRun (Outcome.quietItem item) = driver.endsRun item := by
  cases item with
  | error error => rfl
  | ok outcome =>
    have hpass : (outcome.verdict.mapFailure StageFailure.quiet).isPass = outcome.verdict.isPass :=
      Verdict.isPass_mapFailure _ _
    simp [endsRun, Outcome.quietItem, Except.map, Except.mapError, Outcome.quiet,
      Outcome.mapFailure, hpass]

theorem next_quiet (driver : Driver) (run : Run) (hw : w.quiet = w'.quiet)
    (hagree : AgreeInTurn (driver.next runner run w).2.2.journal
      (driver.next runner' run w').2.2.journal) :
    (driver.next runner run w).1.map Outcome.quietItem =
      (driver.next runner' run w').1.map Outcome.quietItem ∧
    (driver.next runner run w).2.1 = (driver.next runner' run w').2.1 ∧
    (driver.next runner run w).2.2.quiet = (driver.next runner' run w').2.2.quiet := by
  unfold next at hagree ⊢
  split
  · exact ⟨rfl, rfl, hw⟩
  · next hf =>
    simp only [hf] at hagree
    split
    · exact ⟨rfl, rfl, hw⟩
    · next case rest hp =>
      simp only [hp] at hagree
      obtain ⟨hitem, hquiet⟩ := driver.runCase_quiet case hw hagree
      have hends : driver.endsRun (driver.runCase runner case w).1 =
          driver.endsRun (driver.runCase runner' case w').1 := by
        rw [← driver.endsRun_quietItem, hitem, driver.endsRun_quietItem]
      exact ⟨congrArg some hitem, congrArg (Run.mk rest) hends, hquiet⟩

end Driver

end

/-! ## One session -/

namespace Driver

variable {driver : Driver} {runner : Runner σ} {runner' : Runner τ} {s : Session σ}
  {s' : Session τ}

theorem move_quiet (hw : s.world.quiet = s'.world.quiet) (hruns : s.runs = s'.runs) (m : Move)
    (hagree : AgreeInTurn (driver.move runner s m).world.journal
      (driver.move runner' s' m).world.journal) :
    (driver.given runner s m).map Outcome.quietItem =
      (driver.given runner' s' m).map Outcome.quietItem ∧
    (driver.move runner s m).world.quiet = (driver.move runner' s' m).world.quiet ∧
    (driver.move runner s m).runs = (driver.move runner' s' m).runs := by
  cases m with
  | start names =>
    have hdisk := (World.quiet_eq_iff.mp hw).1
    simp only [given, move, hdisk]
    cases driver.runAll names s'.world.disk with
    | ok run => exact ⟨trivial, hw, congrArg (· ++ [run]) hruns⟩
    | error error => exact ⟨trivial, hw, hruns⟩
  | pull number =>
    simp only [given, move, hruns] at hagree ⊢
    cases hrun : s'.runs[number]? with
    | none => exact ⟨rfl, hw, hruns⟩
    | some run =>
      simp only [hrun] at hagree ⊢
      obtain ⟨hitem, hrest, hquiet⟩ := driver.next_quiet run hw hagree
      exact ⟨hitem, hquiet, congrArg (s'.runs.set number) hrest⟩

theorem log_quiet (hw : s.world.quiet = s'.world.quiet) (hruns : s.runs = s'.runs)
    (moves : List Move)
    (hagree : AgreeInTurn (driver.play runner s moves).world.journal
      (driver.play runner' s' moves).world.journal) :
    (driver.log runner s moves).map Entry.quiet = (driver.log runner' s' moves).map Entry.quiet ∧
    (driver.play runner s moves).world.quiet = (driver.play runner' s' moves).world.quiet ∧
    (driver.play runner s moves).runs = (driver.play runner' s' moves).runs := by
  induction moves generalizing s s' with
  | nil => exact ⟨rfl, hw, hruns⟩
  | cons m moves ih =>
    -- What is granted of the whole session is granted of its first move.
    have hfirst : AgreeInTurn (driver.move runner s m).world.journal
        (driver.move runner' s' m).world.journal :=
      hagree.earlier ⟨_, (driver.journal_play runner (driver.move runner s m) moves).symm⟩
        ⟨_, (driver.journal_play runner' (driver.move runner' s' m) moves).symm⟩
    obtain ⟨hgiven, hw₁, hruns₁⟩ := move_quiet hw hruns m hfirst
    obtain ⟨hlog, hrest⟩ := ih hw₁ hruns₁ hagree
    refine ⟨?_, hrest⟩
    simp only [log, List.map_cons, Entry.quiet, hgiven, hw, hw₁, hlog]

end Driver

/-! ## The summary of a run -/

/-- The tally of what the pulls of a run have given. -/
def Entry.tally (number : Nat) (log : List (Entry σ)) : Tally :=
  Tally.ofVerdicts ((outcomesOf ((pullsOf number log).filterMap Entry.given)).map Outcome.verdict)

theorem outcomesOf_map_quietItem (items : List (Except Error Outcome)) :
    outcomesOf (items.map Outcome.quietItem) = (outcomesOf items).map Outcome.quiet := by
  unfold outcomesOf
  rw [List.filterMap_map, List.map_filterMap]
  congr 1
  funext item
  cases item <;> rfl

theorem Entry.tally_quiet (number : Nat) (log : List (Entry σ)) :
    tally number (log.map Entry.quiet) = tally number log := by
  have hpulls : pullsOf number (log.map Entry.quiet) = (pullsOf number log).map Entry.quiet :=
    List.filter_map
  have hgiven : ((pullsOf number log).map Entry.quiet).filterMap Entry.given =
      ((pullsOf number log).filterMap Entry.given).map Outcome.quietItem := by
    rw [List.filterMap_map, List.map_filterMap]
    rfl
  have hkind : ∀ outcome : Outcome, outcome.quiet.verdict.kind = outcome.verdict.kind := by
    rintro ⟨name, verdict⟩
    cases verdict <;> rfl
  unfold tally
  rw [hpulls, hgiven, outcomesOf_map_quietItem]
  apply Tally.ofVerdicts_eq_of_kinds
  simp [hkind]

/-- Take two runners that, call for call, refuse with the same errors, end their processes in the
same states and change the disk in the same way, and of which reference and executable, where they
succeed, write the same. Whatever else the processes write, for whatever moves the sessions are the
same up to that: in what they ask, in the disks and states of the gate that they come through, in
what every move gives, and in the summary of every run. -/
theorem diagnostics_decide_nothing (driver : Driver) (runner : Runner σ) (runner' : Runner τ)
    (machine : σ) (machine' : τ) (disk : Disk) (latch : Latch) (moves : List Move)
    (s : Session σ) (s' : Session τ) (hs : s = ⟨World.start machine disk latch, []⟩)
    (hs' : s' = ⟨World.start machine' disk latch, []⟩)
    (hagree : AgreeInTurn (driver.play runner s moves).world.journal
      (driver.play runner' s' moves).world.journal) :
    (driver.log runner s moves).map Entry.quiet = (driver.log runner' s' moves).map Entry.quiet ∧
    (driver.play runner s moves).world.quiet = (driver.play runner' s' moves).world.quiet ∧
    (driver.play runner s moves).runs = (driver.play runner' s' moves).runs ∧
    ∀ number, Entry.tally number (driver.log runner s moves) =
      Entry.tally number (driver.log runner' s' moves) := by
  have hw : s.world.quiet = s'.world.quiet := by rw [hs, hs']; rfl
  have hruns : s.runs = s'.runs := by rw [hs, hs']
  obtain ⟨hlog, hworld, hrest⟩ := Driver.log_quiet hw hruns moves hagree
  refine ⟨hlog, hworld, hrest, ?_⟩
  intro number
  rw [← Entry.tally_quiet, hlog, Entry.tally_quiet]

/-! ## A talkative build and linker -/

/-- The linker fails. Each process writes what it is given to write, where nobody compares it. -/
def chattyReplies (said : Bytes) : List Reply :=
  [{ answer := fun _ => .ok { state := .exited 0, stdout := said, stdoutCut := true } },
    { answer := fun _ => .ok { state := .exited 0, stdout := [0x33], stderr := said } },
    { changes := [.write "tests/a.ll" [0x69, 0x72] false]
      answer := fun _ => .ok { state := .exited 0, stdout := said, stderrCut := true } },
    { answer := fun _ => .ok { state := .signaled 11, stdout := said, stderr := said } }]

def chattySession (said : Bytes) : Session (List Reply) :=
  ⟨World.start (chattyReplies said) Layout.loneDisk .notBuilt, []⟩

def chattyMoves : List Move := [.start ["a"], .pull 0, .pull 0]

def chattyLog (said : Bytes) : List (Entry (List Reply)) :=
  (makeDriver false).log .scripted (chattySession said) chattyMoves

/-- The failures of the two runs are not the same, and their quiet forms are. -/
theorem chattyLog_quiet_eq :
    (chattyLog [0x68]).map Entry.given ≠ (chattyLog []).map Entry.given ∧
    (chattyLog [0x68]).map Entry.quiet = (chattyLog []).map Entry.quiet ∧
    Entry.tally 0 (chattyLog [0x68]) = Entry.tally 0 (chattyLog []) := by
  have hagree : AgreeInTurn
      ((makeDriver false).play .scripted (chattySession [0x68]) chattyMoves).world.journal
      ((makeDriver false).play .scripted (chattySession []) chattyMoves).world.journal := by
    intro i call call' hi hi'
    match i with
    | 0 | 1 | 2 | 3 =>
      cases hi
      cases hi'
      exact fun _ _ => ⟨rfl, rfl⟩
    | i + 4 => cases hi
  obtain ⟨hlog, -, -, htally⟩ := diagnostics_decide_nothing (makeDriver false) .scripted .scripted
    (chattyReplies [0x68]) (chattyReplies []) Layout.loneDisk .notBuilt chattyMoves _ _ rfl rfl
    hagree
  exact ⟨by decide, hlog, htally 0⟩

end Crosscheck
