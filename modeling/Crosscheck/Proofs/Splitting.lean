import Crosscheck.Proofs.FailFast

/-! # Runs to their end, one after another

A run that is pulled until it gives nothing more gives its items and leaves a world behind. Nothing
but that world passes from one run to the next: if no item of a run ends it early, running further
names after it is the same as having asked for all of them at once, provided that the sources of the
further names are still there.
-/

namespace Crosscheck

variable {σ : Type}

/-! ## To the end of a run -/

namespace Driver

/-- All items of a run, and the world that is left when it gives nothing more. -/
structure Yields (driver : Driver) (runner : Runner σ) (run : Run) (w : World σ)
    (items : List (Except Error Outcome)) (w' : World σ) : Prop where
  given : ∀ count, driver.pulled runner count run w = items[count]?
  left : ∀ count, items.length ≤ count → (driver.pulls runner count run w).2 = w'

variable {driver : Driver} {runner : Runner σ}

theorem Yields.unique {run : Run} {w w₁ w₂ : World σ} {items₁ items₂ : List (Except Error Outcome)}
    (h₁ : driver.Yields runner run w items₁ w₁) (h₂ : driver.Yields runner run w items₂ w₂) :
    items₁ = items₂ ∧ w₁ = w₂ := by
  have hitems : items₁ = items₂ :=
    List.ext_getElem? fun count => (h₁.given count).symm.trans (h₂.given count)
  subst hitems
  exact ⟨rfl, (h₁.left _ (Nat.le_refl _)).symm.trans (h₂.left _ (Nat.le_refl _))⟩

theorem drain_of_ends {case : TestCase} {w : World σ}
    (h : driver.endsRun (driver.runCase runner case w).1 = true) (rest : List TestCase) :
    driver.drain runner (case :: rest) w =
      ([(driver.runCase runner case w).1], (driver.runCase runner case w).2) := by
  simp [drain, h]

theorem drain_of_goes_on {case : TestCase} {w : World σ}
    (h : driver.endsRun (driver.runCase runner case w).1 = false) (rest : List TestCase) :
    driver.drain runner (case :: rest) w =
      ((driver.runCase runner case w).1 ::
          (driver.drain runner rest (driver.runCase runner case w).2).1,
        (driver.drain runner rest (driver.runCase runner case w).2).2) := by
  simp [drain, h]

theorem drain_world (driver : Driver) (runner : Runner σ) (cases : List TestCase) (w : World σ) :
    (driver.drain runner cases w).2 =
      driver.after runner (cases.take (driver.drain runner cases w).1.length) w := by
  induction cases generalizing w with
  | nil => rfl
  | cons case rest ih =>
    cases he : driver.endsRun (driver.runCase runner case w).1 with
    | true => simp [drain_of_ends he, after]
    | false => simp [drain_of_goes_on he, after, ih]

theorem drain_yields (driver : Driver) (runner : Runner σ) (cases : List TestCase) (w : World σ) :
    driver.Yields runner ⟨cases, false⟩ w (driver.drain runner cases w).1
      (driver.drain runner cases w).2 where
  given := fun count => driver.pulled_eq runner count cases w
  left := by
    intro count hle
    rw [pulls_eq_after, Nat.min_eq_right hle, drain_world]

/-- As long as no item ends the run, further cases can wait for a run of their own. -/
theorem drain_append {cases : List TestCase} (more : List TestCase) {w : World σ}
    (h : ∀ item ∈ (driver.drain runner cases w).1, driver.endsRun item = false) :
    driver.drain runner (cases ++ more) w =
      ((driver.drain runner cases w).1 ++
          (driver.drain runner more (driver.drain runner cases w).2).1,
        (driver.drain runner more (driver.drain runner cases w).2).2) := by
  induction cases generalizing w with
  | nil => rfl
  | cons case rest ih =>
    rw [List.cons_append]
    cases he : driver.endsRun (driver.runCase runner case w).1 with
    | true =>
      rw [drain_of_ends he, List.forall_mem_singleton, he] at h
      cases h
    | false =>
      rw [drain_of_goes_on he, List.forall_mem_cons] at h
      rw [drain_of_goes_on he, drain_of_goes_on he, ih h.2, List.cons_append]

end Driver

/-! ## Files that are kept -/

/-- The removal left the file at the path alone, if there was one. -/
def Removal.Keeps (removal : Removal) (path : String) : Prop :=
  removal.before.isFile path = true → removal.after.isFile path = true

/-- A file stays where it is if every call and every removal on the way keeps it. -/
theorem World.Evolves.isFile_of_keeps {runner : Runner σ} {may : String → Prop} {w w' : World σ}
    (h : w.Evolves runner may w') (path : String) :
    ∃ calls removals, w'.journal = w.journal ++ calls ∧ w'.removals = w.removals ++ removals ∧
      ((∀ call ∈ calls, call.Keeps path) → (∀ removal ∈ removals, removal.Keeps path) →
        w.disk.isFile path = true → w'.disk.isFile path = true) := by
  induction h with
  | refl => exact ⟨[], [], by simp, by simp, fun _ _ hfile => hfile⟩
  | @call before after purpose invocation answer _ hc ih =>
    obtain ⟨calls, removals, hjournal, hremovals, hkept⟩ := ih
    have hcalled := called_of_call hc
    refine ⟨calls ++ [⟨purpose, invocation, before.build, before.disk, answer, after.disk⟩],
      removals, ?_, hcalled.removals.trans hremovals, ?_⟩
    · rw [hcalled.journal, hjournal, List.append_assoc]
    · intro hcalls hremoved hfile
      rw [List.forall_mem_append, List.forall_mem_singleton] at hcalls
      exact hcalls.2 (hkept hcalls.1 hremoved hfile)
  | @discard before _ removed _ _ _ hd ih =>
    obtain ⟨calls, removals, hjournal, hremovals, hkept⟩ := ih
    have hdone := removed_of_discard hd
    refine ⟨calls, removals ++ [⟨removed, before.disk⟩], hdone.journal.trans hjournal, ?_, ?_⟩
    · rw [hdone.removals, hremovals, List.append_assoc]
    · intro hcalls hremoved hfile
      rw [List.forall_mem_append, List.forall_mem_singleton] at hremoved
      rw [hdone.disk]
      exact hremoved.2 (hkept hcalls hremoved.1 hfile)
  | relatch _ _ ih => exact ih

/-! ## Two runs and one -/

namespace Driver

variable {driver : Driver} {runner : Runner σ}

theorem drain_evolves (driver : Driver) (runner : Runner σ) (cases : List TestCase) (w : World σ) :
    w.Evolves runner (Derived cases) (driver.drain runner cases w).2 := by
  have hpending : (⟨cases, false⟩ : Run).pending ⊆ cases := List.Subset.refl cases
  have hpulls : w.Evolves runner (Derived cases)
      (driver.pulls runner (driver.drain runner cases w).1.length ⟨cases, false⟩ w).2 :=
    pulls_evolves hpending _ w
  rwa [(driver.drain_yields runner cases w).left _ (Nat.le_refl _)] at hpulls

/-- What a run has kept at every step is still there at its end. -/
theorem isFile_of_drain {cases : List TestCase} {w : World σ} {path : String}
    (hcalls : ∀ call ∈ (driver.drain runner cases w).2.journal.drop w.journal.length,
      call.Keeps path)
    (hremovals : ∀ removal ∈ (driver.drain runner cases w).2.removals.drop w.removals.length,
      removal.Keeps path)
    (hfile : w.disk.isFile path = true) :
    (driver.drain runner cases w).2.disk.isFile path = true := by
  obtain ⟨calls, removals, hjournal, hremoved, hkept⟩ :=
    (driver.drain_evolves runner cases w).isFile_of_keeps path
  rw [hjournal, List.drop_left] at hcalls
  rw [hremoved, List.drop_left] at hremovals
  exact hkept hcalls hremovals hfile

/-- A driver that keeps going accepts the names of two lists together. Then it accepts those of the
first. If their run gives no error, and no call and no removal of it takes a source of the second
list, then those of the second are accepted after it; and the two runs one after the other give the
items of the one run over all names, make its calls, and leave the same world behind. -/
theorem split_run_eq_whole (driver : Driver) (runner : Runner σ) (first second : List String)
    (w : World σ) (run : Run) (hgo : driver.failFast = false)
    (hrun : driver.runAll (first ++ second) w.disk = .ok run) :
    ∃ run₁ items₁ w₁, driver.runAll first w.disk = .ok run₁ ∧
      driver.Yields runner run₁ w items₁ w₁ ∧
      ((∀ item ∈ items₁, ∃ outcome, item = .ok outcome) →
        (∀ name ∈ second, ∀ call ∈ w₁.journal.drop w.journal.length,
          call.Keeps (driver.layout.testCase name).source) →
        (∀ name ∈ second, ∀ removal ∈ w₁.removals.drop w.removals.length,
          removal.Keeps (driver.layout.testCase name).source) →
        ∃ run₂ items₂ w₂ calls₁ calls₂, driver.runAll second w₁.disk = .ok run₂ ∧
          driver.Yields runner run₂ w₁ items₂ w₂ ∧
          w₁.journal = w.journal ++ calls₁ ∧ w₂.journal = w₁.journal ++ calls₂ ∧
          driver.Yields runner run w (items₁ ++ items₂) w₂ ∧
          w₂.journal = w.journal ++ (calls₁ ++ calls₂)) := by
  obtain ⟨hnodup, hsources, rfl⟩ := runAll_eq_ok_iff.mp hrun
  obtain ⟨hnodup₁, hnodup₂, -⟩ := List.nodup_append.mp hnodup
  rw [List.forall_mem_append] at hsources
  refine ⟨⟨first.map driver.layout.testCase, false⟩, _, _,
    runAll_eq_ok_iff.mpr ⟨hnodup₁, hsources.1, rfl⟩, driver.drain_yields runner _ w, ?_⟩
  intro hok hcalls hremovals
  have hends : ∀ item ∈ (driver.drain runner (first.map driver.layout.testCase) w).1,
      driver.endsRun item = false := by
    intro item hmem
    obtain ⟨outcome, rfl⟩ := hok item hmem
    simp [endsRun, hgo]
  have hthere : ∀ name ∈ second,
      (driver.drain runner (first.map driver.layout.testCase) w).2.disk.isFile
        (driver.layout.testCase name).source = true := fun name hmem =>
    isFile_of_drain (hcalls name hmem) (hremovals name hmem) (hsources.2 name hmem)
  obtain ⟨calls₁, hjournal₁⟩ :=
    (driver.drain_evolves runner (first.map driver.layout.testCase) w).journal_grows
  obtain ⟨calls₂, hjournal₂⟩ :=
    (driver.drain_evolves runner (second.map driver.layout.testCase)
      (driver.drain runner (first.map driver.layout.testCase) w).2).journal_grows
  refine ⟨⟨second.map driver.layout.testCase, false⟩, _, _, calls₁, calls₂,
    runAll_eq_ok_iff.mpr ⟨hnodup₂, hthere, rfl⟩, driver.drain_yields runner _ _, hjournal₁.symm,
    hjournal₂.symm, ?_, ?_⟩
  · have hwhole := driver.drain_yields runner ((first ++ second).map driver.layout.testCase) w
    rw [List.map_append, drain_append _ hends] at hwhole
    rwa [List.map_append]
  · rw [← hjournal₂, ← hjournal₁, List.append_assoc]

/-- A session in which nothing has been built. -/
def plainStart : World Unit := World.start () nestedDisk .notBuilt

/-- The first run builds, and both programs pass, whether they are asked for together or not. -/
theorem plainRun_splits :
    plainDriver.runAll (["a"] ++ ["tests/a.scheme"]) plainStart.disk = .ok plainRun ∧
    ∃ run₁ w₁ run₂ w₂, plainDriver.runAll ["a"] plainStart.disk = .ok run₁ ∧
      plainDriver.Yields busyRunner run₁ plainStart [.ok ⟨"a", .pass⟩] w₁ ∧
      plainDriver.runAll ["tests/a.scheme"] w₁.disk = .ok run₂ ∧
      plainDriver.Yields busyRunner run₂ w₁ [.ok ⟨"tests/a.scheme", .pass⟩] w₂ ∧
      plainDriver.Yields busyRunner plainRun plainStart
        [.ok ⟨"a", .pass⟩, .ok ⟨"tests/a.scheme", .pass⟩] w₂ ∧
      w₁.journal.length = 5 ∧ w₂.journal.length = 9 := by
  have hrun : plainDriver.runAll (["a"] ++ ["tests/a.scheme"]) plainStart.disk = .ok plainRun := rfl
  obtain ⟨run₁, items₁, w₁, hrun₁, hyields₁, hsplit⟩ :=
    split_run_eq_whole plainDriver busyRunner ["a"] ["tests/a.scheme"] plainStart plainRun rfl hrun
  obtain rfl : run₁ = ⟨["a"].map (Layout.testCase {}), false⟩ := (Except.ok.inj hrun₁).symm
  obtain ⟨rfl, rfl⟩ := hyields₁.unique (plainDriver.drain_yields busyRunner _ plainStart)
  have hcalls : ((plainDriver.drain busyRunner (["a"].map (Layout.testCase {})) plainStart).2.journal.all
      fun call => call.after.isFile "tests/tests/a.scheme.scheme") = true := rfl
  have hremovals : ((plainDriver.drain busyRunner (["a"].map (Layout.testCase {}))
      plainStart).2.removals.all
        fun removal => removal.after.isFile "tests/tests/a.scheme.scheme") = true := rfl
  obtain ⟨run₂, items₂, w₂, calls₁, calls₂, hrun₂, hyields₂, -, -, hwhole, -⟩ := hsplit
    (List.forall_mem_singleton.mpr ⟨⟨"a", .pass⟩, rfl⟩)
    (List.forall_mem_singleton.mpr fun call hmem _ => List.all_eq_true.mp hcalls call hmem)
    (List.forall_mem_singleton.mpr fun removal hmem _ => List.all_eq_true.mp hremovals removal hmem)
  obtain rfl : run₂ = ⟨["tests/a.scheme"].map (Layout.testCase {}), false⟩ :=
    (Except.ok.inj hrun₂).symm
  obtain ⟨rfl, rfl⟩ := hyields₂.unique (plainDriver.drain_yields busyRunner _ _)
  exact ⟨hrun, _, _, _, _, hrun₁, hyields₁, hrun₂, hyields₂, hwhole, rfl, rfl⟩

end Driver

end Crosscheck
