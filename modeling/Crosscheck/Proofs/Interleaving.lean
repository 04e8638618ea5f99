import Crosscheck.Proofs.Run

/-! # Runs pulled in any order

Several runs of one driver share its gate, its runner and the disk. They can be started at any time,
pulled in any order and left alone. Through all of it `Gated` holds of the world: no step of a case
is called before the build has succeeded, and the build command is not called again once it has been
answered. The flag of the gate is up during these calls only. Behind a failed build every pull meets
the same error and nothing happens any more.
-/

namespace Crosscheck

variable {σ : Type}

/-- What can be done with a driver. Runs are numbered in the order of their start. -/
inductive Move where
  | start (names : List String)
  | pull (number : Nat)
  deriving DecidableEq, Repr

/-- A world and the runs that have been started in it. -/
structure Session (σ : Type) where
  world : World σ
  runs : List Run

namespace Driver

/-- The session after a move. A run whose names are refused is not started, and there is nothing to
pull of a run that was not. -/
def move (driver : Driver) (runner : Runner σ) (s : Session σ) : Move → Session σ
  | .start names =>
    match driver.runAll names s.world.disk with
    | .ok run => { s with runs := s.runs ++ [run] }
    | .error _ => s
  | .pull number =>
    match s.runs[number]? with
    | some run =>
      let (_, run, w) := driver.next runner run s.world
      ⟨w, s.runs.set number run⟩
    | none => s

/-- The session after moves made one after another. -/
def play (driver : Driver) (runner : Runner σ) (s : Session σ) (moves : List Move) : Session σ :=
  moves.foldl (driver.move runner) s

/-- A move leaves the world as it is, or it pulls an item of a run. -/
theorem move_world (driver : Driver) (runner : Runner σ) (s : Session σ) (m : Move) :
    (driver.move runner s m).world = s.world ∨
      ∃ run ∈ s.runs, (driver.move runner s m).world = (driver.next runner run s.world).2.2 := by
  cases m with
  | start names =>
    simp only [move]
    split <;> exact .inl rfl
  | pull number =>
    cases hr : s.runs[number]? with
    | none => exact .inl (by simp [move, hr])
    | some run => exact .inr ⟨run, List.mem_of_getElem? hr, by simp [move, hr]⟩

end Driver

/-! ## The invariant -/

/-- The calls so far respect the gate, whose latch was `first` at the beginning. -/
structure Gated (gate : Gate) (first : Latch) (w : World σ) : Prop where
  stages : ∀ call ∈ w.journal, ∀ case step, call.purpose = .stage case step → call.build = .built
  builds : ∀ call ∈ w.journal, call.purpose = .build →
    call.invocation = gate.command ∧ call.build = .building
  once : (w.journal.filter fun call => call.purpose = .build).Pairwise
    fun earlier _ => ∃ error, earlier.answer = .error error
  waiting : w.build.settled = false → ∀ call ∈ w.journal, call.purpose = .build →
    ∃ error, call.answer = .error error
  idle : first.building = false → w.latch.building = false
  failure : ∀ failure, w.build = .failed failure → first.state = .failed failure ∨
    ∃ call ∈ w.journal, ∃ output, call.purpose = .build ∧ call.answer = .ok output ∧
      gate.settle output = .error failure

namespace Gated

variable {gate : Gate} {first : Latch} {runner : Runner σ} {w w' : World σ}

theorem start (machine : σ) (disk : Disk) : Gated gate first (World.start machine disk first) where
  stages := by simp [World.start]
  builds := by simp [World.start]
  once := by simp [World.start]
  waiting := by simp [World.start]
  idle := id
  failure := fun _ h => .inl h

/-- One more call of the build command, made while the gate was open. -/
theorem add_build (h : Gated gate first w) (hw : w.build.settled = false) {before after : Disk}
    {answer : Except Error Output}
    (hj : w'.journal = w.journal ++ [⟨.build, gate.command, .building, before, answer, after⟩])
    (hopen : w'.build.settled = false → ∃ error, answer = .error error)
    (hdown : w'.latch.building = false)
    (hfailed : ∀ failure, w'.build = .failed failure →
      ∃ output, answer = .ok output ∧ gate.settle output = .error failure) :
    Gated gate first w' where
  stages := by
    intro call hm case step hp
    rw [hj, List.mem_append, List.mem_singleton] at hm
    rcases hm with hm | rfl
    · exact h.stages call hm case step hp
    · cases hp
  builds := by
    intro call hm hp
    rw [hj, List.mem_append, List.mem_singleton] at hm
    rcases hm with hm | rfl
    · exact h.builds call hm hp
    · exact ⟨rfl, rfl⟩
  once := by
    -- The calls before this one were all refused, or the gate would have been settled.
    rw [hj, List.filter_append, List.pairwise_append]
    refine ⟨h.once, by simp, ?_⟩
    intro earlier hm _ _
    obtain ⟨hm, hp⟩ := List.mem_filter.mp hm
    exact h.waiting hw earlier hm (of_decide_eq_true hp)
  waiting := by
    intro hs call hm hp
    rw [hj, List.mem_append, List.mem_singleton] at hm
    rcases hm with hm | rfl
    · exact h.waiting hw call hm hp
    · exact hopen hs
  idle := fun _ => hdown
  failure := by
    intro failure hb
    obtain ⟨output, ha, hsettle⟩ := hfailed failure hb
    refine .inr ⟨⟨.build, gate.command, .building, before, answer, after⟩, ?_, output, rfl, ha,
      hsettle⟩
    rw [hj]
    exact List.mem_append_right _ (List.mem_singleton_self _)

/-- More calls of steps, made when the build had succeeded. -/
theorem add_stages (h : Gated gate first w) (hlatch : w'.latch = w.latch) {calls : List Call}
    (hj : w'.journal = w.journal ++ calls)
    (hcalls : ∀ call ∈ calls, ∃ case step, call.purpose = .stage case step ∧ call.build = .built) :
    Gated gate first w' where
  stages := by
    intro call hm case step hp
    rw [hj, List.mem_append] at hm
    rcases hm with hm | hm
    · exact h.stages call hm case step hp
    · obtain ⟨_, _, _, hbuilt⟩ := hcalls call hm
      exact hbuilt
  builds := by
    intro call hm hp
    rw [hj, List.mem_append] at hm
    rcases hm with hm | hm
    · exact h.builds call hm hp
    · obtain ⟨_, _, hstage, _⟩ := hcalls call hm
      rw [hstage] at hp
      cases hp
  once := by
    have hnone : (calls.filter fun call => call.purpose = .build) = [] := by
      rw [List.filter_eq_nil_iff]
      intro call hm
      obtain ⟨_, _, hstage, _⟩ := hcalls call hm
      simp [hstage]
    rw [hj, List.filter_append, hnone, List.append_nil]
    exact h.once
  waiting := by
    intro hs call hm hp
    rw [World.build, hlatch] at hs
    rw [hj, List.mem_append] at hm
    rcases hm with hm | hm
    · exact h.waiting hs call hm hp
    · obtain ⟨_, _, hstage, _⟩ := hcalls call hm
      rw [hstage] at hp
      cases hp
  idle := by
    rw [hlatch]
    exact h.idle
  failure := by
    intro failure hf
    rw [World.build, hlatch] at hf
    rcases h.failure failure hf with hfirst | ⟨call, hm, hcall⟩
    · exact .inl hfirst
    · exact .inr ⟨call, by rw [hj]; exact List.mem_append_left _ hm, hcall⟩

/-! ## What one pull preserves -/

theorem visit (h : Gated gate first w) {ending : Except Error Unit × World σ}
    (hv : gate.Visited runner w ending) : Gated gate first ending.2 := by
  cases hv with
  | settled _ => exact h
  | refused hnone hc =>
    refine h.add_build (Latch.settled_of_none hnone) (World.called_of_call hc).journal ?_ rfl ?_
    · exact fun _ => ⟨_, rfl⟩
    · exact fun _ hf => nomatch hf
  | answered hnone hc =>
    refine h.add_build (Latch.settled_of_none hnone) (World.called_of_call hc).journal ?_ rfl ?_
    · intro hs
      rw [World.build, Latch.settled_state] at hs
      cases hs
    · intro failure hf
      exact ⟨_, rfl, Option.some.inj (Latch.state_eq_failed_iff.mp hf)⟩

theorem execute (h : Gated gate first w) (hb : w.build = .built) {tools : Toolchain}
    {case : TestCase} {result : Except Error Verdict}
    (hx : Pipeline.execute runner tools case w = (result, w')) : Gated gate first w' := by
  have hfollows := Pipeline.execute_follows runner tools case w
  rw [hx] at hfollows
  obtain ⟨events, hu, ht⟩ := hfollows.traced
  apply h.add_stages hfollows.latch hu.journal
  intro call hm
  obtain ⟨step, hp, hbuild⟩ := ht.stage_of_mem hm
  exact ⟨case, step, hp, hbuild.trans hb⟩

theorem discard (h : Gated gate first w) {path : String} {result : Except Error Unit}
    (hd : w.discard path = (result, w')) : Gated gate first w' := by
  have hremoved := World.removed_of_discard hd
  have hj : w'.journal = w.journal ++ [] := by rw [hremoved.journal, List.append_nil]
  exact h.add_stages hremoved.latch hj (by simp)

theorem handle {driver : Driver} (h : Gated driver.gate first w) {case : TestCase}
    {ending : Except Error Outcome × World σ} (hh : driver.Handled runner case w ending) :
    Gated driver.gate first ending.2 := by
  have hgate : ∀ passed w₁, driver.gate.ensureBuilt runner w = (passed, w₁) →
      Gated driver.gate first w₁ ∧ (passed = .ok () → w₁.build = .built) := by
    intro passed w₁ hg
    have hv := driver.gate.ensureBuilt_visited runner w
    rw [hg] at hv
    exact ⟨h.visit hv, hv.built_of_ok⟩
  cases hh with
  | refused hg => exact (hgate _ _ hg).1
  | stopped hg hx => exact (hgate _ _ hg).1.execute ((hgate _ _ hg).2 rfl) hx
  | failed hg hx _ => exact (hgate _ _ hg).1.execute ((hgate _ _ hg).2 rfl) hx
  | stuck hg hx _ hd => exact ((hgate _ _ hg).1.execute ((hgate _ _ hg).2 rfl) hx).discard hd
  | passed hg hx _ hd => exact ((hgate _ _ hg).1.execute ((hgate _ _ hg).2 rfl) hx).discard hd

theorem next {driver : Driver} (h : Gated driver.gate first w) (run : Run) :
    Gated driver.gate first (driver.next runner run w).2.2 := by
  have hpulled := driver.next_pulled runner run w
  generalize driver.next runner run w = ending at hpulled
  cases hpulled with
  | ended _ => exact h
  | @took case _ _ _ _ _ hc =>
    have hh := driver.runCase_handled runner case w
    rw [hc] at hh
    exact h.handle hh

theorem move {driver : Driver} {s : Session σ} (h : Gated driver.gate first s.world) (m : Move) :
    Gated driver.gate first (driver.move runner s m).world := by
  rcases driver.move_world runner s m with hw | ⟨run, -, hw⟩
  · rw [hw]
    exact h
  · rw [hw]
    exact h.next run

/-- What one move preserves, any number of moves preserves. -/
theorem play {driver : Driver} {s : Session σ} (h : Gated driver.gate first s.world)
    (moves : List Move) : Gated driver.gate first (driver.play runner s moves).world := by
  induction moves generalizing s with
  | nil => exact h
  | cons m moves ih => exact ih (h.move m)

end Gated

/-! ## Behind a failed build -/

namespace Driver

variable {driver : Driver} {runner : Runner σ} {failure : BuildFailure}

theorem runCase_of_failed {w : World σ} (hb : w.build = .failed failure) (case : TestCase) :
    driver.runCase runner case w =
      (.error (.build failure.command failure.state failure.stderr), w) := by
  unfold runCase
  rw [driver.gate.ensureBuilt_of_outcome runner (Latch.state_eq_failed_iff.mp hb)]
  rfl

theorem next_of_failed {w : World σ} (hb : w.build = .failed failure) {run : Run}
    {case : TestCase} {rest : List TestCase} (hf : run.finished = false)
    (hp : run.pending = case :: rest) :
    driver.next runner run w =
      (some (.error (.build failure.command failure.state failure.stderr)), ⟨rest, true⟩, w) := by
  simp [next, hf, hp, runCase_of_failed hb, endsRun]

/-- No pull changes the world behind a failed build, be there a case left or not. -/
theorem next_world_of_failed {w : World σ} (hb : w.build = .failed failure) (run : Run) :
    (driver.next runner run w).2.2 = w := by
  have hpulled := driver.next_pulled runner run w
  generalize driver.next runner run w = ending at hpulled
  cases hpulled with
  | ended _ => rfl
  | took _ _ hc =>
    rw [runCase_of_failed hb] at hc
    cases hc
    rfl

theorem play_world_of_failed {s : Session σ} (hb : s.world.build = .failed failure)
    (moves : List Move) : (driver.play runner s moves).world = s.world := by
  induction moves generalizing s with
  | nil => rfl
  | cons m moves ih =>
    have hm : (driver.move runner s m).world = s.world := by
      rcases driver.move_world runner s m with hw | ⟨run, -, hw⟩
      · exact hw
      · rw [hw, next_world_of_failed hb]
    have hrest := ih (s := driver.move runner s m) (by rw [hm]; exact hb)
    exact hrest.trans hm

end Driver

/-- However runs are started and pulled: steps of cases are called only when the build has
succeeded; the build is under way during the calls of its command and not when they are over; of
these calls only the last can have been answered; and once the build has failed, the world stays as
it is and every run that has a case left gets the same error. -/
theorem stages_only_behind_build (driver : Driver) (runner : Runner σ) (machine : σ) (disk : Disk)
    (latch : Latch) (moves : List Move) (s : Session σ)
    (hs : s = driver.play runner ⟨World.start machine disk latch, []⟩ moves) :
    (∀ call ∈ s.world.journal, ∀ case step, call.purpose = .stage case step →
      call.build = .built) ∧
    (∀ call ∈ s.world.journal, call.purpose = .build →
      call.invocation = driver.gate.command ∧ call.build = .building) ∧
    (latch.building = false → s.world.build ≠ .building) ∧
    ((s.world.journal.filter fun call => call.purpose = .build).Pairwise
      fun earlier _ => ∃ error, earlier.answer = .error error) ∧
    ∀ failure, s.world.build = .failed failure →
      (latch.state = .failed failure ∨ ∃ call ∈ s.world.journal, ∃ output,
        call.purpose = .build ∧ call.answer = .ok output ∧
        driver.gate.settle output = .error failure) ∧
      ∀ later,
        (driver.play runner s later).world = s.world ∧
        ∀ run ∈ (driver.play runner s later).runs, ∀ case rest,
          run.finished = false → run.pending = case :: rest →
          driver.next runner run s.world =
            (some (.error (.build failure.command failure.state failure.stderr)), ⟨rest, true⟩,
              s.world) := by
  have hstart : Gated driver.gate latch (World.start machine disk latch) := .start machine disk
  have h : Gated driver.gate latch s.world := by
    rw [hs]
    exact Gated.play (s := ⟨World.start machine disk latch, []⟩) hstart moves
  refine ⟨h.stages, h.builds, fun hdown => Latch.state_ne_building (h.idle hdown), h.once, ?_⟩
  intro failure hb
  refine ⟨h.failure failure hb, ?_⟩
  intro later
  refine ⟨Driver.play_world_of_failed hb later, ?_⟩
  intro run _ case rest hf hp
  exact Driver.next_of_failed hb hf hp

/-! ## A build that fails at the second attempt -/

/-- The build cannot be started at first, and then it fails. -/
def brokenReplies : List Reply :=
  [{ answer := fun invocation => .error (cannotSpawn invocation "busy") },
    { answer := fun _ => .ok { state := .exited 1, stderr := [0x6e, 0x6f] } }]

/-- The usual settings, and a build by `make`. -/
def makeDriver (failFast : Bool) : Driver := .ofSettings {} ⟨{ program := "make" }⟩ failFast

/-- Three runs are started; the first meets the refusal and the second the failure. -/
def brokenMoves : List Move :=
  [.start ["a"], .start ["a"], .start ["a"], .pull 0, .pull 1]

def brokenSession : Session (List Reply) :=
  (makeDriver false).play .scripted ⟨World.start brokenReplies Layout.loneDisk .notBuilt, []⟩
    brokenMoves

/-- The command is called twice, and the third run meets the failure without a call. -/
theorem brokenSession_stays_failed :
    brokenSession.world.build = .failed ⟨"make", .exited 1, "no"⟩ ∧
    brokenSession.world.journal.length = 2 ∧
    (∀ later,
      ((makeDriver false).play .scripted brokenSession later).world = brokenSession.world) ∧
    (makeDriver false).next .scripted ⟨[Layout.testCase {} "a"], false⟩ brokenSession.world =
      (some (.error (.build "make" (.exited 1) "no")), ⟨[], true⟩, brokenSession.world) := by
  have hruns : ⟨[Layout.testCase {} "a"], false⟩ ∈ brokenSession.runs := by
    have hthree : brokenSession.runs =
        [⟨[], true⟩, ⟨[], true⟩, ⟨[Layout.testCase {} "a"], false⟩] := rfl
    rw [hthree]
    simp
  obtain ⟨-, -, -, -, hfailed⟩ := stages_only_behind_build (makeDriver false) .scripted
    brokenReplies Layout.loneDisk .notBuilt brokenMoves brokenSession rfl
  obtain ⟨-, hlater⟩ := hfailed ⟨"make", .exited 1, "no"⟩ rfl
  exact ⟨rfl, rfl, fun later => (hlater later).1, (hlater []).2 _ hruns _ _ rfl rfl⟩

end Crosscheck
