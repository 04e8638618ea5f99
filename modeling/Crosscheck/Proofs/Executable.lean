import Crosscheck.Proofs.Sources
import Crosscheck.Proofs.Effects

/-! # The file that is linked, run and removed

The path of an executable is made direct when its case is made, and once more when it is run; the
linker and the removal take it as it is. The second time changes nothing, so all three mean one file
by one path, and there is a slash in the path: no program of that name is searched for.
-/

namespace Crosscheck

variable {σ : Type}

/-- A case that comes to a comparison has called all its steps. -/
theorem Pipeline.orders_of_judged {runner : Runner σ} {tools : Toolchain} {case : TestCase}
    {w w' : World σ} {verdict : Verdict} (hv : verdict.kind.callCount = 4)
    (h : execute runner tools case w = (.ok verdict, w')) :
    ∃ calls, w'.journal = w.journal ++ calls ∧
      calls.map Call.order = orders tools case [.reference, .compile, .link, .execute] := by
  obtain ⟨events, hunfolds, htraced⟩ := (execute_follows runner tools case w).traced
  rw [h] at hunfolds htraced
  refine ⟨Event.calls events, hunfolds.journal, ?_⟩
  have hasked := htraced.asked.map fun asked => (asked.1, asked.2.1)
  rw [List.map_map, List.map_map] at hasked
  apply hasked.eq_of_length
  have hcount := htraced.count verdict rfl
  rw [hv] at hcount
  rw [List.length_map, List.length_map]
  exact Nat.add_right_cancel hcount

theorem Layout.direct_executable (layout : Layout) (name : String) :
    Path.direct (layout.testCase name).executable = (layout.testCase name).executable :=
  Path.direct_direct (Path.join layout.outputDir name)

namespace Driver

variable {driver : Driver} {runner : Runner σ} {case : TestCase} {w : World σ}

/-- A case that passed has called all its steps, and the executable was removed last. -/
theorem runCase_of_pass (h : driver.verdict? runner case w = some .pass) :
    ∃ earlier calls removals disk,
      (driver.runCase runner case w).2.journal = earlier ++ calls ∧
      calls.map Call.order =
        Pipeline.orders driver.tools case [.reference, .compile, .link, .execute] ∧
      (driver.runCase runner case w).2.removals = removals ++ [⟨case.executable, disk⟩] := by
  have hhandled := driver.runCase_handled runner case w
  generalize driver.runCase runner case w = ending at hhandled ⊢
  cases hhandled with
  | refused hg => simp [verdict?, hg] at h
  | stopped hg hx => simp [verdict?, hg, hx, Except.toOption] at h
  | failed hg hx hv =>
    obtain rfl : _ = Verdict.pass := by simpa [verdict?, hg, hx, Except.toOption] using h
    cases hv
  | stuck hg hx hv hd | passed hg hx hv hd =>
    obtain rfl := Verdict.isPass_iff.mp hv
    obtain ⟨calls, hjournal, horders⟩ := Pipeline.orders_of_judged rfl hx
    have hremoved := World.removed_of_discard hd
    exact ⟨_, calls, _, _, hremoved.journal.trans hjournal, horders, hremoved.removals⟩

end Driver

/-- A direct path has a slash, unless it names no file; it stays as it is when it is made direct
again; and it says what the path says, but for a dot in front of a lone name. So the file that the
linker is to write is the one that is run and, after a pass, the one that is removed, all by one
path, and the path has a slash. -/
theorem linked_file_is_run_and_removed :
    (∀ path : String,
      (path ≠ "" → path ≠ "." → path ≠ ".." → '/' ∈ (Path.direct path).toList) ∧
      Path.direct (Path.direct path) = Path.direct path ∧
      Path.components (Path.direct path) =
        if Path.isLone (Path.components path) then .here :: Path.components path
        else Path.components path) ∧
    ∀ (layout : Layout) (name : String) (driver : Driver) (runner : Runner σ) (w : World σ)
      (case : TestCase), case = layout.testCase name →
      (∃ front, (driver.tools.invocation case .link).args = front ++ ["-o", case.executable]) ∧
      (driver.tools.invocation case .execute).program = case.executable ∧
      (driver.verdict? runner case w = some .pass →
        ∃ earlier calls removals disk,
          (driver.runCase runner case w).2.journal = earlier ++ calls ∧
          calls.map Call.order =
            Pipeline.orders driver.tools case [.reference, .compile, .link, .execute] ∧
          (driver.runCase runner case w).2.removals = removals ++ [⟨case.executable, disk⟩]) ∧
      (Path.join layout.outputDir name ∉ ["", ".", ".."] → '/' ∈ case.executable.toList) := by
  refine ⟨fun path => ⟨Path.slash_mem_direct, Path.direct_direct path, Path.components_direct path⟩,
    ?_⟩
  rintro layout name driver runner w case rfl
  refine
    ⟨⟨driver.tools.linker.args ++ [(layout.testCase name).ir, driver.tools.runtimeArchive], ?_⟩,
      ?_, Driver.runCase_of_pass, ?_⟩
  · simp only [Toolchain.invocation, List.append_assoc, List.cons_append, List.nil_append]
  · simp only [Toolchain.invocation, layout.direct_executable name]
  · intro hpath
    simp only [List.mem_cons, List.not_mem_nil, or_false, not_or] at hpath
    exact Path.slash_mem_direct hpath.1 hpath.2.1 hpath.2.2

/-- The program that is run and removed is the one in the working directory, whatever else goes by
its name. -/
theorem loneCase_is_anchored :
    Driver.plainDriver.verdict? Driver.busyRunner Pipeline.loneCase
      (World.start () Driver.nestedDisk .built) = some .pass ∧
    Path.join "." "a" ∉ ["", ".", ".."] ∧
    (∃ removals disk, (Driver.plainDriver.runCase Driver.busyRunner Pipeline.loneCase
      (World.start () Driver.nestedDisk .built)).2.removals = removals ++ [⟨"./a", disk⟩]) ∧
    '/' ∈ Pipeline.loneCase.executable.toList := by
  have hpass : Driver.plainDriver.verdict? Driver.busyRunner Pipeline.loneCase
      (World.start () Driver.nestedDisk .built) = some .pass := rfl
  have hpath : Path.join "." "a" ∉ ["", ".", ".."] := by decide
  obtain ⟨-, -, hremoved, hslash⟩ := linked_file_is_run_and_removed.2 {} "a" Driver.plainDriver
    Driver.busyRunner (World.start () Driver.nestedDisk .built) Pipeline.loneCase rfl
  obtain ⟨-, -, removals, disk, -, -, hlast⟩ := hremoved hpass
  exact ⟨hpass, hpath, ⟨removals, disk, hlast⟩, hslash hpath⟩

end Crosscheck
