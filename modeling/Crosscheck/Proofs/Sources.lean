import Crosscheck.Proofs.Corpus
import Crosscheck.Proofs.Run
import Crosscheck.Proofs.Trail

/-! # What becomes of the sources

The harness removes two files of a case by itself: its IR before it is compiled, and its executable
after it has passed. Nothing keeps these paths apart from the sources of the run, its own or those of
other cases. A source that the runner leaves alone is lost to such a removal, or it is kept: the
removal must take an entry on the trail of the source, and whenever one does, the source is gone.
-/

namespace Crosscheck

variable {σ : Type}

/-! ## Files through a session -/

/-- The runner left the file at the path alone, if there was one. -/
def Call.Keeps (call : Call) (path : String) : Prop :=
  call.before.isFile path = true → call.after.isFile path = true

namespace World.Evolves

variable {runner : Runner σ} {may : String → Prop} {w w' : World σ}

theorem removed_path (h : w.Evolves runner may w') (hw : ∀ removal ∈ w.removals, may removal.path) :
    ∀ removal ∈ w'.removals, may removal.path := by
  induction h with
  | refl => exact hw
  | call _ hc ih =>
    rw [(called_of_call hc).removals]
    exact ih
  | discard _ hpath hd ih =>
    intro removal hmem
    rw [(removed_of_discard hd).removals, List.mem_append, List.mem_singleton] at hmem
    rcases hmem with hmem | rfl
    · exact ih removal hmem
    · exact hpath
  | relatch _ _ ih => exact ih

/-- A file that no call takes is still there, or a removal broke its path. -/
theorem isFile_or_broken (h : w.Evolves runner may w') {path : String}
    (hfile : w.disk.isFile path = true) (hkeep : ∀ call ∈ w'.journal, call.Keeps path) :
    w'.disk.isFile path = true ∨ ∃ removal ∈ w'.removals, removal.Breaks path := by
  induction h with
  | refl => exact .inl hfile
  | call _ hc ih =>
    have hcalled := called_of_call hc
    rw [hcalled.journal] at hkeep
    rw [hcalled.removals]
    refine (ih fun call hmem => hkeep call (List.mem_append_left _ hmem)).imp_left ?_
    exact hkeep _ (List.mem_append_right _ (List.mem_singleton_self _))
  | @discard before _ removed _ _ _ hd ih =>
    have hdone := removed_of_discard hd
    rw [hdone.journal] at hkeep
    rw [hdone.removals, hdone.disk, Removal.isFile_after_iff]
    rcases ih hkeep with hthere | ⟨removal, hmem, hbreaks⟩
    · by_cases hbreaks : Removal.Breaks ⟨removed, before.disk⟩ path
      · exact .inr ⟨_, List.mem_append_right _ (List.mem_singleton_self _), hbreaks⟩
      · exact .inl ⟨hthere, hbreaks⟩
    · exact .inr ⟨removal, List.mem_append_left _ hmem, hbreaks⟩
  | relatch _ _ ih => exact ih hkeep

end World.Evolves

/-! ## What a run removes -/

/-- The path is made from one of the cases. -/
def Derived (cases : List TestCase) (path : String) : Prop :=
  ∃ case ∈ cases, path = case.ir ∨ path = case.executable

namespace Driver

variable {driver : Driver} {runner : Runner σ} {cases : List TestCase}

theorem Handled.evolves {case : TestCase} (hcase : case ∈ cases) {w : World σ}
    {ending : Except Error Outcome × World σ} (h : Handled driver runner case w ending) :
    w.Evolves runner (Derived cases) ending.2 := by
  have hgate : ∀ passed w₁, driver.gate.ensureBuilt runner w = (passed, w₁) →
      w.Evolves runner (Derived cases) w₁ := by
    intro passed w₁ hg
    have hv := (driver.gate.ensureBuilt_visited runner w).evolves (Derived cases)
    rwa [hg] at hv
  have hpipe : ∀ w₁ result w₂, Pipeline.execute runner driver.tools case w₁ = (result, w₂) →
      w₁.Evolves runner (Derived cases) w₂ := by
    intro w₁ result w₂ hx
    have hf := (Pipeline.execute_follows runner driver.tools case w₁).evolves
    rw [hx] at hf
    exact hf.mono fun path hpath => ⟨case, hcase, .inl hpath⟩
  have hexe : Derived cases case.executable := ⟨case, hcase, .inr rfl⟩
  cases h with
  | refused hg => exact hgate _ _ hg
  | stopped hg hx => exact (hgate _ _ hg).trans (hpipe _ _ _ hx)
  | failed hg hx _ => exact (hgate _ _ hg).trans (hpipe _ _ _ hx)
  | stuck hg hx _ hd => exact ((hgate _ _ hg).trans (hpipe _ _ _ hx)).discard hexe hd
  | passed hg hx _ hd => exact ((hgate _ _ hg).trans (hpipe _ _ _ hx)).discard hexe hd

theorem Pulled.evolves {run : Run} (hrun : run.pending ⊆ cases) {w : World σ}
    {ending : Option (Except Error Outcome) × Run × World σ} (h : Pulled driver runner run w ending) :
    ending.2.1.pending ⊆ cases ∧ w.Evolves runner (Derived cases) ending.2.2 := by
  cases h with
  | ended _ => exact ⟨hrun, .refl⟩
  | @took case rest item w' _ hp hc =>
    rw [hp, List.cons_subset] at hrun
    have hh := driver.runCase_handled runner case w
    rw [hc] at hh
    exact ⟨hrun.2, hh.evolves hrun.1⟩

/-- The run and the world after a number of pulls. -/
def pulls (driver : Driver) (runner : Runner σ) : Nat → Run → World σ → Run × World σ
  | 0, run, w => (run, w)
  | count + 1, run, w =>
    let (_, run, w) := driver.next runner run w
    pulls driver runner count run w

theorem pulls_evolves {run : Run} (hrun : run.pending ⊆ cases) (count : Nat) (w : World σ) :
    w.Evolves runner (Derived cases) (driver.pulls runner count run w).2 := by
  induction count generalizing run w with
  | zero => exact .refl
  | succ count ih =>
    obtain ⟨hpending, hnext⟩ := (driver.next_pulled runner run w).evolves hrun
    exact hnext.trans (ih hpending _)

/-! ## The sources of a run -/

theorem isFile_of_runAll {names : List String} {disk : Disk} {run : Run}
    (h : driver.runAll names disk = .ok run) :
    ∀ case ∈ run.pending, disk.isFile case.source = true := by
  obtain ⟨-, hsources, rfl⟩ := runAll_eq_ok_iff.mp h
  simpa using hsources

/-- Say the runner leaves the sources of a run alone. After any number of pulls each of them is still
a file, or it was lost to the harness: to the removal of the IR or the executable of a case of the
run, which took an entry on the trail of the source. A removal that does so always costs the file,
and no other one does. Where there are no links, it takes a path that ends in the same name. -/
theorem sources_lost_only_to_removals (driver : Driver) (runner : Runner σ) (machine : σ)
    (disk : Disk) (latch : Latch) (names : List String) (run : Run)
    (hrun : driver.runAll names disk = .ok run) (count : Nat) (w : World σ)
    (hw : w = (driver.pulls runner count run (World.start machine disk latch)).2)
    (hkeep : ∀ call ∈ w.journal, ∀ case ∈ run.pending, call.Keeps case.source) :
    (∀ case ∈ run.pending, w.disk.isFile case.source = true ∨
      ∃ removal ∈ w.removals, removal.Breaks case.source) ∧
    ∀ removal ∈ w.removals,
      (∃ case ∈ run.pending, removal.path = case.ir ∨ removal.path = case.executable) ∧
      ∀ path,
        (removal.after.isFile path = true ↔
          removal.before.isFile path = true ∧ ¬ removal.Breaks path) ∧
        (removal.Breaks path → removal.before.Plain path →
          (Path.segments removal.path).getLast? = (Path.segments path).getLast?) := by
  have hevolves : (World.start machine disk latch).Evolves runner (Derived run.pending) w := by
    rw [hw]
    exact pulls_evolves (List.Subset.refl _) count _
  constructor
  · intro case hcase
    exact hevolves.isFile_or_broken (isFile_of_runAll hrun case hcase)
      fun call hcall => hkeep call hcall case hcase
  · intro removal hmem
    have hnone : ∀ removal ∈ (World.start machine disk latch).removals,
        Derived run.pending removal.path := by
      simp [World.start]
    refine ⟨hevolves.removed_path hnone removal hmem, ?_⟩
    intro path
    exact ⟨removal.isFile_after_iff path, Removal.Breaks.getLast?_eq⟩

/-! ## Sources that are lost -/

/-- Two programs, one of them in a directory below the corpus. -/
def nestedDisk : Disk :=
  (Layout.loneDisk.set ["work", "tests", "tests"] (.directory true)).set
    ["work", "tests", "tests", "a.scheme.scheme"] (.file [] false)

/-- The layout as it comes, and a gate that is open. -/
def plainDriver : Driver := .ofSettings {} .prebuilt false

def plainRun : Run := ⟨["a", "tests/a.scheme"].map (Layout.testCase {}), false⟩

/-- Every process does well and leaves IR for both programs behind. -/
def busyRunner : Runner Unit where
  run _ disk _ :=
    (.ok { state := .exited 0 }, (),
      (disk.set ["work", "tests", "a.ll"] (.file [] false)).set
        ["work", "tests", "tests", "a.scheme.ll"] (.file [] false))

def plainWorld : World Unit :=
  (plainDriver.pulls busyRunner 2 plainRun (World.start () nestedDisk .built)).2

/-- The executable of the second program has the path of the first one, which is lost to it when both
have passed; the second one is kept. -/
theorem plainRun_loses_first_source :
    plainDriver.runAll ["a", "tests/a.scheme"] nestedDisk = .ok plainRun ∧
    (∀ call ∈ plainWorld.journal, ∀ case ∈ plainRun.pending, call.Keeps case.source) ∧
    plainWorld.disk.isFile "tests/a.scheme" = false ∧
    plainWorld.disk.isFile "tests/tests/a.scheme.scheme" = true ∧
    ∃ removal ∈ plainWorld.removals, removal.Breaks "tests/a.scheme" ∧
      removal.after.isFile "tests/a.scheme" = false := by
  have hrun : plainDriver.runAll ["a", "tests/a.scheme"] nestedDisk = .ok plainRun := rfl
  have hafter : (plainWorld.journal.all fun call => plainRun.pending.all fun case =>
      call.after.isFile case.source) = true := rfl
  have hkeep : ∀ call ∈ plainWorld.journal, ∀ case ∈ plainRun.pending,
      call.Keeps case.source := by
    intro call hcall case hcase _
    exact List.all_eq_true.mp (List.all_eq_true.mp hafter call hcall) case hcase
  have hlost : plainWorld.disk.isFile "tests/a.scheme" = false := rfl
  obtain ⟨hsources, hremovals⟩ := sources_lost_only_to_removals plainDriver busyRunner ()
    nestedDisk .built ["a", "tests/a.scheme"] plainRun hrun 2 plainWorld rfl hkeep
  have hfirst : plainWorld.disk.isFile "tests/a.scheme" = true ∨
      ∃ removal ∈ plainWorld.removals, removal.Breaks "tests/a.scheme" :=
    hsources _ List.mem_cons_self
  rw [hlost] at hfirst
  obtain ⟨removal, hmem, hbreaks⟩ := hfirst.resolve_left Bool.false_ne_true
  refine ⟨hrun, hkeep, hlost, rfl, removal, hmem, hbreaks, ?_⟩
  rw [Bool.eq_false_iff, ne_eq, ((hremovals removal hmem).2 _).1]
  exact fun h => h.2 hbreaks

/-- IR and sources have the same suffix. -/
def clashingDriver : Driver := { plainDriver with layout := { irSuffix := "scheme" } }

def clashingCase : TestCase := ⟨"a", "tests/a.scheme", "tests/a.scheme", "./a"⟩

/-- Only the reference does well, and the disk is left as it is. -/
def idleRunner : Runner Unit where
  run _ disk invocation :=
    (.ok { state := .exited (if invocation.stdin.isSome then 0 else 1) }, (), disk)

/-- A program whose IR has the path of its source is removed before it is compiled. -/
theorem clashing_suffixes_lose_source :
    clashingDriver.runAll ["a"] nestedDisk = .ok ⟨[clashingCase], false⟩ ∧
    (∀ disk invocation, (idleRunner.run () disk invocation).2.2 = disk) ∧
    nestedDisk.isFile clashingCase.source = true ∧
    (clashingDriver.pulls idleRunner 1 ⟨[clashingCase], false⟩
      (World.start () nestedDisk .built)).2.disk.isFile clashingCase.source = false :=
  ⟨rfl, fun _ _ => rfl, rfl, rfl⟩

end Driver

end Crosscheck
