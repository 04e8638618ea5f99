import Crosscheck.Corpus
import Crosscheck.Proofs.Path

/-! # The cases of a list of names

A list of names is accepted exactly if no name occurs twice and every one has a source, and then its
cases are those of the naming convention. That the names differ as texts is not enough to keep the
executables apart: `Aliases` says which names lead to the same one. Tidy names never do.
-/

namespace Crosscheck.Layout

variable {layout : Layout} {disk : Disk} {names : List String} {cases : List TestCase}

/-! ## Accepted names -/

theorem resolveFrom_eq_ok_iff {seen : List String} :
    layout.resolveFrom disk seen names = .ok cases ↔
      names.Nodup ∧
      (∀ name ∈ names, name ∉ seen ∧ disk.isFile (layout.testCase name).source = true) ∧
      cases = names.map layout.testCase := by
  induction names generalizing seen cases with
  | nil =>
    unfold resolveFrom
    constructor
    · intro h
      cases h
      simp
    · rintro ⟨-, -, rfl⟩
      rfl
  | cons name names ih =>
    unfold resolveFrom
    by_cases hseen : name ∈ seen
    · simp [hseen]
    by_cases hfile : disk.isFile (layout.testCase name).source = true
    · rw [if_neg hseen, if_pos hfile]
      constructor
      · intro h
        split at h
        · next rest hrest =>
          cases h
          obtain ⟨hnodup, hall, rfl⟩ := ih.mp hrest
          refine ⟨List.nodup_cons.mpr ⟨?_, hnodup⟩, ?_, rfl⟩
          · exact fun hmem => (hall name hmem).1 List.mem_cons_self
          · intro other hmem
            rcases List.mem_cons.mp hmem with rfl | hmem
            · exact ⟨hseen, hfile⟩
            · exact ⟨fun hold => (hall other hmem).1 (List.mem_cons_of_mem _ hold), (hall other hmem).2⟩
        · cases h
      · rintro ⟨hnodup, hall, rfl⟩
        obtain ⟨hnew, hnodup⟩ := List.nodup_cons.mp hnodup
        have hrest : layout.resolveFrom disk (name :: seen) names = .ok (names.map layout.testCase) := by
          refine ih.mpr ⟨hnodup, ?_, rfl⟩
          intro other hmem
          obtain ⟨hold, hsource⟩ := hall other (List.mem_cons_of_mem _ hmem)
          refine ⟨?_, hsource⟩
          rw [List.mem_cons, not_or]
          exact ⟨fun heq => hnew (heq ▸ hmem), hold⟩
        rw [hrest]
        rfl
    · simp [hseen, hfile]

theorem resolve_eq_ok_iff :
    layout.resolve disk names = .ok cases ↔
      names.Nodup ∧ (∀ name ∈ names, disk.isFile (layout.testCase name).source = true) ∧
        cases = names.map layout.testCase := by
  simp [resolve, resolveFrom_eq_ok_iff]

/-! ## Names with the same executable -/

/-- The names lead to the same executable in the output directory `dir`. Of two relative names this
takes the same steps; without a directory, only a lone name may have a dot in front of it or not. An
absolute name does not care for the directory, so it meets a relative one if it says all of that
one's way. -/
def Aliases (dir a b : String) : Prop :=
  match Path.isAbsolute a, Path.isAbsolute b with
  | true, true => Path.steps a = Path.steps b
  | true, false => Path.isAbsolute dir = true ∧ Path.steps a = Path.steps dir ++ Path.steps b
  | false, true => Path.isAbsolute dir = true ∧ Path.steps dir ++ Path.steps a = Path.steps b
  | false, false =>
    Path.steps a = Path.steps b ∧
      (dir ≠ "" ∨ Path.start a = Path.start b ∨ Path.isLone (Path.steps a) = true)

theorem components_executable_eq_iff (layout : Layout) (a b : String) :
    Path.components (layout.testCase a).executable =
        Path.components (layout.testCase b).executable ↔
      Aliases layout.outputDir a b := by
  simp only [testCase]
  rw [Path.components_direct_eq_iff]
  unfold Aliases
  cases ha : Path.isAbsolute a with
  | true =>
    have hroota := (Path.start_eq_root_iff a).mpr ha
    rw [Path.join_of_isAbsolute _ ha]
    cases hb : Path.isAbsolute b with
    | true =>
      rw [Path.join_of_isAbsolute _ hb, hroota, (Path.start_eq_root_iff b).mpr hb]
      simp
    | false =>
      rw [Path.steps_join _ hb, hroota, eq_comm (a := some _), Path.start_eq_root_iff,
        Path.isAbsolute_join _ hb]
      simp [ha, and_comm]
  | false =>
    cases hb : Path.isAbsolute b with
    | true =>
      rw [Path.join_of_isAbsolute _ hb, Path.steps_join _ ha, (Path.start_eq_root_iff b).mpr hb,
        Path.start_eq_root_iff, Path.isAbsolute_join _ ha]
      simp [hb, and_comm]
    | false =>
      rw [Path.steps_join _ ha, Path.steps_join _ hb, List.append_cancel_left_eq]
      apply and_congr_right
      intro hsteps
      by_cases hdir : layout.outputDir = ""
      · simp [hdir, ha, hb]
      · simp [hdir, Path.start_join _ hdir ha, Path.start_join _ hdir hb]

/-- Two tidy names of one list are relative, and as they differ they take different steps. -/
theorem not_aliases_of_tidy {dir a b : String} (ha : Path.Tidy a) (hb : Path.Tidy b) (h : a ≠ b) :
    ¬ Aliases dir a b := by
  unfold Aliases
  rw [ha.isAbsolute_eq, hb.isAbsolute_eq]
  exact fun halias => h (ha.eq_of_steps_eq hb halias.1)

/-- The cases of an accepted list have different executables, compared by their components, exactly
if no two of its names are aliases. If all names are tidy, none are. -/
theorem executables_differ_iff (layout : Layout) (disk : Disk) (names : List String)
    (cases : List TestCase) (h : layout.resolve disk names = .ok cases) :
    (cases.Pairwise (fun a b => Path.components a.executable ≠ Path.components b.executable) ↔
      names.Pairwise (fun a b => ¬ Aliases layout.outputDir a b)) ∧
    ((∀ name ∈ names, Path.Tidy name) →
      cases.Pairwise (fun a b => Path.components a.executable ≠ Path.components b.executable)) := by
  obtain ⟨hnodup, -, rfl⟩ := resolve_eq_ok_iff.mp h
  have hiff : (names.map layout.testCase).Pairwise
      (fun a b => Path.components a.executable ≠ Path.components b.executable) ↔
        names.Pairwise (fun a b => ¬ Aliases layout.outputDir a b) := by
    rw [List.pairwise_map]
    simp only [ne_eq, components_executable_eq_iff]
  refine ⟨hiff, ?_⟩
  intro htidy
  rw [hiff]
  refine hnodup.imp_of_mem ?_
  intro a b ha hb hne
  exact not_aliases_of_tidy (htidy a ha) (htidy b hb) hne

/-! ## Names that share an executable -/

/-- A disk with one program. -/
def loneDisk : Disk :=
  (Disk.fresh.set ["work", "tests"] (.directory true)).set ["work", "tests", "a.scheme"]
    (.file [] false)

/-- A disk with a program in the corpus and one in a directory below it. -/
def sharedDisk : Disk :=
  (loneDisk.set ["work", "tests", "d"] (.directory true)).set ["work", "tests", "d", "a.scheme"]
    (.file [] false)

/-- Tidy names are kept apart, also where they end alike. -/
theorem tidyNames_differ :
    ({} : Layout).resolve sharedDisk ["a", "d/a"] =
      .ok (["a", "d/a"].map ({} : Layout).testCase) ∧
    (["a", "d/a"].map ({} : Layout).testCase).Pairwise
      (fun a b => Path.components a.executable ≠ Path.components b.executable) := by
  have hresolve : ({} : Layout).resolve sharedDisk ["a", "d/a"] =
      .ok (["a", "d/a"].map ({} : Layout).testCase) := rfl
  exact ⟨hresolve, (executables_differ_iff {} sharedDisk _ _ hresolve).2 (by decide)⟩

/-- A name and the same name with a dot in front of it are accepted together, and their cases are to
be linked to, run from and removed at one place. -/
theorem dottedName_shares_executable :
    ({} : Layout).resolve sharedDisk ["a", "./a"] =
      .ok [⟨"a", "tests/a.scheme", "tests/a.ll", "./a"⟩,
        ⟨"./a", "tests/./a.scheme", "tests/./a.ll", "././a"⟩] ∧
    Path.components "./a" = Path.components "././a" ∧
    ¬ (["a", "./a"].map ({} : Layout).testCase).Pairwise
      (fun a b => Path.components a.executable ≠ Path.components b.executable) :=
  ⟨rfl, rfl, fun h => List.rel_of_pairwise_cons h List.mem_cons_self rfl⟩

end Crosscheck.Layout
