import Crosscheck.Proofs.Coupling
import Crosscheck.Proofs.Footprint
import Crosscheck.Proofs.Progress
import Crosscheck.Proofs.Splitting

/-! # Cases on their own

A runner that is local to a case looks at its reach and changes its home, and the harness does the
same. So a case that is taken on a disk on which others have been at work goes as it would have gone
on the disk as it was before them, if their homes are not within its reach. This makes the items of
a run, and the disk that it ends with, a matter of each case alone.
-/

namespace Crosscheck

variable {σ : Type}

/-- The runner does the steps of the case in the same way on all disks that are the same to the
case, whatever its own state, and what it changes is inside the case. -/
structure Runner.LocalTo (runner : Runner σ) (tools : Toolchain) (case : TestCase) : Prop where
  inside : ∀ step machine (d : Disk),
    d.Inside case (runner.run machine d (tools.invocation case step)).2.2
  answer : ∀ step machine machine' (d d' : Disk), Disk.Agree (d.reach case) d d' →
    (runner.run machine' d' (tools.invocation case step)).1 =
      (runner.run machine d (tools.invocation case step)).1
  result : ∀ step machine machine' (d d' : Disk), Disk.Agree (d.reach case) d d' →
    ∀ l ∈ d.home case, (runner.run machine' d' (tools.invocation case step)).2.2.node? l =
      (runner.run machine d (tools.invocation case step)).2.2.node? l

/-! ## The same case on two disks -/

/-- The worlds in which a case is taken on two disks that are the same to it. -/
structure Twin (case : TestCase) (d d' : Disk) (w w' : World σ) : Prop where
  build : w.build = .built
  build' : w'.build = .built
  inside : d.Inside case w.disk
  inside' : d'.Inside case w'.disk
  home : ∀ l ∈ d.home case, w'.disk.node? l = w.disk.node? l

namespace Twin

variable {case : TestCase} {d d' : Disk} {w w' : World σ}

/-- What was in reach at the beginning is the same still. -/
theorem agree (h : Twin case d d' w w') (hd : Disk.Agree (d.reach case) d d') :
    Disk.Agree (d.reach case) w.disk w'.disk where
  cwd := by rw [h.inside.cwd, h.inside'.cwd, hd.cwd]
  node := by
    intro l hl
    by_cases hhome : l ∈ d.home case
    · exact h.home l hhome
    · rw [h.inside.outside l hhome, h.inside'.outside l (by rw [hd.home]; exact hhome)]
      exact hd.node l hl

theorem agree_now (h : Twin case d d' w w') (hd : Disk.Agree (d.reach case) d d') :
    Disk.Agree (w.disk.reach case) w.disk w'.disk :=
  ⟨(h.agree hd).cwd, fun l hl => (h.agree hd).node l (h.inside.reach hl)⟩

/-- One more change on either side, which is inside the case and has the same effect at home. -/
theorem change (h : Twin case d d' w w') (hd : Disk.Agree (d.reach case) d d') {w₁ w₁' : World σ}
    (hbuild : w₁.build = w.build) (hbuild' : w₁'.build = w'.build)
    (hinside : w.disk.Inside case w₁.disk) (hinside' : w'.disk.Inside case w₁'.disk)
    (heffect : ∀ l ∈ w.disk.home case, w₁'.disk.node? l = w₁.disk.node? l) :
    Twin case d d' w₁ w₁' where
  build := hbuild.trans h.build
  build' := hbuild'.trans h.build'
  inside := h.inside.trans hinside
  inside' := h.inside'.trans hinside'
  home := by
    intro l hl
    by_cases hnow : l ∈ w.disk.home case
    · exact heffect l hnow
    · have hnow' : l ∉ w'.disk.home case := by
        rw [(h.agree_now hd).home]
        exact hnow
      rw [hinside.outside l hnow, hinside'.outside l hnow']
      exact h.home l hl

end Twin

theorem Pipeline.coupling_twin {runner : Runner σ} {tools : Toolchain} {case : TestCase}
    (hlocal : runner.LocalTo tools case) {d d' : Disk} (hd : Disk.Agree (d.reach case) d d') :
    Coupling runner runner tools case id (fun _ _ => True) (Twin case d d') where
  earlier := fun _ _ h => h
  call := by
    intro w w' step h _
    have hanswer : (callStep runner tools case step w').1 = (callStep runner tools case step w).1 :=
      hlocal.answer step w.machine w'.machine w.disk w'.disk (h.agree_now hd)
    refine ⟨?_, ?_⟩
    · rw [hanswer]
      cases (callStep runner tools case step w).1 with
      | error error => exact .refused error
      | ok output => exact .given ⟨rfl, fun _ _ => ⟨rfl, rfl⟩, fun _ => rfl⟩
    · exact h.change hd rfl rfl (hlocal.inside step w.machine w.disk)
        (hlocal.inside step w'.machine w'.disk)
        (hlocal.result step w.machine w'.machine w.disk w'.disk (h.agree_now hd))
  discard := by
    intro w w' path hpath h
    have hmem : path ∈ case.paths := by
      rcases hpath with rfl | rfl <;> simp [TestCase.paths]
    have hagree := (h.agree_now hd).path hmem
    refine ⟨hagree.removal.1.symm, ?_⟩
    refine h.change hd rfl rfl (w.disk.inside_after hmem) (w'.disk.inside_after hmem) ?_
    intro l hl
    exact hagree.after ((h.agree_now hd).node l (w.disk.home_subset_reach case hl))
  written := by
    intro w w' h
    exact ((h.agree_now hd).path (by simp [TestCase.paths])).pathExists.symm

theorem Outcome.map_mapFailure_id (item : Except Error Outcome) :
    item.map (Outcome.mapFailure id) = item := by
  rcases item with error | ⟨name, verdict⟩
  · rfl
  · cases verdict <;> rfl

namespace Driver

variable {driver : Driver} {runner : Runner σ}

theorem ensureBuilt_of_built (driver : Driver) (runner : Runner σ) {w : World σ}
    (h : w.build = .built) : driver.gate.ensureBuilt runner w = (.ok (), w) :=
  driver.gate.ensureBuilt_of_outcome runner (Latch.state_eq_built_iff.mp h)

/-- A case has the same item, and leaves the same behind at home, on disks that are the same to
it. -/
theorem runCase_twin (driver : Driver) {case : TestCase}
    (hlocal : runner.LocalTo driver.tools case) {w w' : World σ} (hbuild : w.build = .built)
    (hbuild' : w'.build = .built) (hd : Disk.Agree (w.disk.reach case) w.disk w'.disk) :
    (driver.runCase runner case w').1 = (driver.runCase runner case w).1 ∧
      Twin case w.disk w'.disk (driver.runCase runner case w).2
        (driver.runCase runner case w').2 := by
  have hstart : Twin case w.disk w'.disk w w' :=
    ⟨hbuild, hbuild', .refl _ _, .refl _ _,
      fun l hl => hd.node l (w.disk.home_subset_reach case hl)⟩
  obtain ⟨hitem, htwin⟩ := runCase_paired (Pipeline.coupling_twin hlocal hd)
    (driver.ensureBuilt_of_built runner hbuild) (driver.ensureBuilt_of_built runner hbuild')
    hstart trivial
  rw [Outcome.map_mapFailure_id, Outcome.map_mapFailure_id] at hitem
  exact ⟨hitem.symm, htwin⟩

end Driver

/-! ## One case after another -/

/-- Nothing that the first case may change matters to the second. -/
def Disk.Apart (d : Disk) (case other : TestCase) : Prop :=
  ∀ l ∈ d.home case, l ∉ d.reach other

/-- The same working directory and the same nodes everywhere. -/
structure Disk.Same (d d' : Disk) : Prop where
  cwd : d.cwd = d'.cwd
  node : ∀ l, d.node? l = d'.node? l

namespace Driver

variable {driver : Driver} {runner : Runner σ}

/-- The world after some cases, which began on the disk of `first`. At the home of each it has what
the case would have left there by itself, and all else is as it was. -/
structure Served (driver : Driver) (runner : Runner σ) (first : World σ) (done : List TestCase)
    (w : World σ) : Prop where
  build : w.build = .built
  cwd : w.disk.cwd = first.disk.cwd
  left : ∀ case ∈ done, ∀ l ∈ first.disk.home case,
    w.disk.node? l = (driver.runCase runner case first).2.disk.node? l
  rest : ∀ l, (∀ case ∈ done, l ∉ first.disk.home case) → w.disk.node? l = first.disk.node? l

namespace Served

variable {first w : World σ} {done : List TestCase}

theorem start (hbuild : w.build = .built) (hdisk : w.disk = first.disk) :
    Served driver runner first [] w where
  build := hbuild
  cwd := by rw [hdisk]
  left := fun _ h => nomatch h
  rest := fun l _ => by rw [hdisk]

/-- A case that the others are apart from goes as it would have gone first. -/
theorem take (h : Served driver runner first done w) (hfirst : first.build = .built)
    {case : TestCase} (hlocal : runner.LocalTo driver.tools case)
    (hapart : ∀ other ∈ done, first.disk.Apart other case) :
    (driver.runCase runner case w).1 = (driver.runCase runner case first).1 ∧
      Served driver runner first (case :: done) (driver.runCase runner case w).2 := by
  -- What the others have changed is out of reach.
  have hagree : Disk.Agree (first.disk.reach case) first.disk w.disk :=
    ⟨h.cwd, fun l hl => h.rest l fun other hother hhome => hapart other hother l hhome hl⟩
  obtain ⟨hitem, htwin⟩ := driver.runCase_twin hlocal hfirst h.build hagree
  have hkept : ∀ l, l ∉ first.disk.home case →
      (driver.runCase runner case w).2.disk.node? l = w.disk.node? l := by
    intro l hl
    rw [← hagree.home] at hl
    exact htwin.inside'.outside l hl
  refine ⟨hitem, htwin.build', htwin.inside'.cwd.trans h.cwd, ?_, ?_⟩
  · intro other hother l hl
    rcases List.mem_cons.mp hother with rfl | hother
    · exact htwin.home l hl
    · have hoff : l ∉ first.disk.home case := fun hhome =>
        hapart other hother l hl (first.disk.home_subset_reach case hhome)
      rw [hkept l hoff, h.left other hother l hl]
  · intro l hl
    rw [hkept l (hl case List.mem_cons_self)]
    exact h.rest l fun other hother => hl other (List.mem_cons_of_mem _ hother)

/-- The order in which the cases were taken does not show. -/
theorem same {done' : List TestCase} {w' : World σ} (h : Served driver runner first done w)
    (h' : Served driver runner first done' w') (hdone : ∀ case, case ∈ done ↔ case ∈ done') :
    w.disk.Same w'.disk where
  cwd := h.cwd.trans h'.cwd.symm
  node := by
    intro l
    by_cases hl : ∃ case ∈ done, l ∈ first.disk.home case
    · obtain ⟨case, hcase, hhome⟩ := hl
      rw [h.left case hcase l hhome, h'.left case ((hdone case).mp hcase) l hhome]
    · have hoff : ∀ case ∈ done, l ∉ first.disk.home case :=
        fun case hcase hhome => hl ⟨case, hcase, hhome⟩
      rw [h.rest l hoff, h'.rest l fun case hcase => hoff case ((hdone case).mpr hcase)]

/-- What one case preserves, a run over any number of cases does. -/
theorem drain (h : Served driver runner first done w) (hfirst : first.build = .built)
    {cases : List TestCase} (hlocal : ∀ case ∈ cases, runner.LocalTo driver.tools case)
    (hdone : ∀ other ∈ done, ∀ case ∈ cases, first.disk.Apart other case)
    (hapart : cases.Pairwise first.disk.Apart) :
    (driver.drain runner cases w).1 =
      upToFirst driver.endsRun (cases.map fun case => (driver.runCase runner case first).1) ∧
    ((∀ case ∈ cases, driver.endsRun (driver.runCase runner case first).1 = false) →
      Served driver runner first (cases.reverse ++ done) (driver.drain runner cases w).2) := by
  induction cases generalizing done w with
  | nil => exact ⟨rfl, fun _ => h⟩
  | cons case rest ih =>
    obtain ⟨hnext, hrest⟩ := List.pairwise_cons.mp hapart
    obtain ⟨hitem, hserved⟩ := h.take hfirst (hlocal case List.mem_cons_self)
      fun other hother => hdone other hother case List.mem_cons_self
    have hdone' : ∀ other ∈ case :: done, ∀ later ∈ rest, first.disk.Apart other later := by
      intro other hother later hlater
      rcases List.mem_cons.mp hother with rfl | hother
      · exact hnext later hlater
      · exact hdone other hother later (List.mem_cons_of_mem _ hlater)
    obtain ⟨hitems, hall⟩ := ih hserved
      (fun later hlater => hlocal later (List.mem_cons_of_mem _ hlater)) hdone' hrest
    unfold Driver.drain
    rw [List.map_cons, upToFirst, ← hitem]
    dsimp only
    refine ⟨?_, ?_⟩
    · split
      · rfl
      · rw [hitems]
    · intro hnone
      rw [hitem, hnone case List.mem_cons_self, if_neg Bool.false_ne_true, List.reverse_cons,
        List.append_assoc]
      exact hall fun later hlater => hnone later (List.mem_cons_of_mem _ hlater)

end Served

/-- The item of a name that is taken first. -/
def solo (driver : Driver) (runner : Runner σ) (first : World σ) (name : String) :
    Except Error Outcome :=
  (driver.runCase runner (driver.layout.testCase name) first).1

/-- The verdict on a name that is taken first, if there is one. -/
def soloVerdict (driver : Driver) (runner : Runner σ) (first : World σ) (name : String) : Verdict :=
  match driver.solo runner first name with
  | .ok outcome => outcome.verdict
  | .error _ => .pass

theorem solo_eq_ok {first : World σ} {name : String}
    (h : driver.endsRun (driver.solo runner first name) = false) :
    driver.solo runner first name = .ok ⟨name, driver.soloVerdict runner first name⟩ := by
  have hh := driver.runCase_handled runner (driver.layout.testCase name) first
  unfold soloVerdict
  cases hsolo : driver.solo runner first name with
  | error error =>
    rw [hsolo] at h
    cases h
  | ok outcome =>
    have hname : outcome.name = name := hh.name_eq hsolo
    rw [← hname]

/-- Where no item of a run that keeps going is an error, none has ended it. -/
theorem endsRun_solo_of_ok (hkeep : driver.failFast = false) {first : World σ} {names : List String}
    (hok : ∀ item ∈ upToFirst driver.endsRun (names.map (driver.solo runner first)),
      ∃ outcome, item = .ok outcome) :
    ∀ name ∈ names, driver.endsRun (driver.solo runner first name) = false := by
  have hany : (upToFirst driver.endsRun (names.map (driver.solo runner first))).any
      driver.endsRun = false := by
    rw [List.any_eq_false]
    intro item hmem
    obtain ⟨outcome, rfl⟩ := hok item hmem
    simp [endsRun, hkeep]
  rw [any_upToFirst, List.any_eq_false] at hany
  intro name hmem
  simpa using hany _ (List.mem_map_of_mem hmem)

theorem upToFirst_solo {first : World σ} {names : List String}
    (h : ∀ name ∈ names, driver.endsRun (driver.solo runner first name) = false) :
    upToFirst driver.endsRun (names.map (driver.solo runner first)) =
      names.map fun name => .ok ⟨name, driver.soloVerdict runner first name⟩ := by
  rw [upToFirst_eq_self (List.forall_mem_map.mpr h)]
  exact List.map_congr_left fun name hmem => solo_eq_ok (h name hmem)

/-- The items of a run over names that are apart, in whatever order, are those of the names by
themselves. -/
theorem served_of_names {first w : World σ} (hfirst : first.build = .built)
    (hbuild : w.build = .built) (hdisk : w.disk = first.disk) {names : List String}
    (hnodup : names.Nodup)
    (hlocal : ∀ name ∈ names, runner.LocalTo driver.tools (driver.layout.testCase name))
    (hapart : ∀ name ∈ names, ∀ other ∈ names, name ≠ other →
      first.disk.Apart (driver.layout.testCase name) (driver.layout.testCase other)) :
    (driver.drain runner (names.map driver.layout.testCase) w).1 =
      upToFirst driver.endsRun (names.map (driver.solo runner first)) ∧
    ((∀ name ∈ names, driver.endsRun (driver.solo runner first name) = false) →
      Served driver runner first (names.map driver.layout.testCase).reverse
        (driver.drain runner (names.map driver.layout.testCase) w).2) := by
  have hstart : Served driver runner first [] w := .start hbuild hdisk
  have hcases : (names.map driver.layout.testCase).Pairwise first.disk.Apart :=
    List.pairwise_map.mpr (hnodup.imp_of_mem fun ha hb hne => hapart _ ha _ hb hne)
  obtain ⟨hitems, hall⟩ := hstart.drain hfirst (List.forall_mem_map.mpr hlocal)
    (fun _ h => nomatch h) hcases
  rw [List.map_map] at hitems
  rw [List.append_nil, List.forall_mem_map] at hall
  exact ⟨hitems, hall⟩

end Driver

/-- Let the runner be local to the cases of a run that keeps going behind a gate that is built, and
let no location of one case be a location of another or on the way to one. Then every item of the
run is the one that the name has by itself on the disk as it was at the beginning. If none of them is
an error, the names can be run in any order: each gets the same verdict, and the disk ends up the
same. -/
theorem cases_do_not_interfere (driver : Driver) (runner : Runner σ) (names : List String)
    (run : Run) (w : World σ) (hkeep : driver.failFast = false) (hbuild : w.build = .built)
    (hrun : driver.runAll names w.disk = .ok run)
    (hlocal : ∀ name ∈ names, runner.LocalTo driver.tools (driver.layout.testCase name))
    (hapart : ∀ name ∈ names, ∀ other ∈ names, name ≠ other →
      w.disk.Apart (driver.layout.testCase name) (driver.layout.testCase other)) :
    ∃ items ending, driver.Yields runner run w items ending ∧
      (∀ (i : Nat) item, items[i]? = some item →
        ∃ name alone, names[i]? = some name ∧ driver.runAll [name] w.disk = .ok alone ∧
          ∀ fresh : World σ, fresh.build = .built → fresh.disk = w.disk →
            ∃ left, driver.Yields runner alone fresh [item] left) ∧
      ((∀ item ∈ items, ∃ outcome, item = .ok outcome) →
        ∃ verdict : String → Verdict,
          items = names.map (fun name => .ok ⟨name, verdict name⟩) ∧
          ∀ reordered : List String, reordered.Perm names →
            ∃ again, driver.runAll reordered w.disk = .ok again ∧
              ∀ fresh : World σ, fresh.build = .built → fresh.disk = w.disk →
                ∃ left, driver.Yields runner again fresh
                    (reordered.map fun name => .ok ⟨name, verdict name⟩) left ∧
                  left.disk.Same ending.disk) := by
  obtain ⟨hnodup, hsources, rfl⟩ := Driver.runAll_eq_ok_iff.mp hrun
  obtain ⟨hitems, hserved⟩ := Driver.served_of_names hbuild hbuild rfl hnodup hlocal hapart
  refine ⟨_, _, driver.drain_yields runner _ w, ?_, ?_⟩
  · intro i item hitem
    have hhead := upToFirst_isPrefixOf driver.endsRun (names.map (driver.solo runner w))
    rw [← hitems] at hhead
    obtain ⟨hlt, hget⟩ := List.getElem?_eq_some_iff.mp hitem
    have hi := List.prefix_iff_getElem?.mp hhead i hlt
    rw [List.getElem?_map] at hi
    obtain ⟨name, hname, hsolo⟩ := Option.map_eq_some_iff.mp hi
    have hmem : [name] ⊆ names := by simpa using List.mem_of_getElem? hname
    have hone : [name].Nodup := by simp
    refine ⟨name, ⟨[name].map driver.layout.testCase, false⟩, hname, ?_, ?_⟩
    · exact Driver.runAll_eq_ok_iff.mpr
        ⟨hone, fun other hother => hsources other (hmem hother), rfl⟩
    · intro fresh hfresh hdisk
      obtain ⟨halone, -⟩ := Driver.served_of_names hbuild hfresh hdisk hone
        (fun other hother => hlocal other (hmem hother))
        (fun a ha b hb => hapart a (hmem ha) b (hmem hb))
      have hlone : upToFirst driver.endsRun ([name].map (driver.solo runner w)) = [item] := by
        rw [List.map_singleton, upToFirst, hsolo, ← hget]
        split <;> rfl
      have hyields := driver.drain_yields runner ([name].map driver.layout.testCase) fresh
      rw [halone, hlone] at hyields
      exact ⟨_, hyields⟩
  · intro hok
    have hnone : ∀ name ∈ names, driver.endsRun (driver.solo runner w name) = false :=
      Driver.endsRun_solo_of_ok hkeep (hitems ▸ hok)
    refine ⟨driver.soloVerdict runner w, hitems.trans (Driver.upToFirst_solo hnone), ?_⟩
    intro reordered hperm
    have hsub : reordered ⊆ names := hperm.subset
    have hnone' : ∀ name ∈ reordered, driver.endsRun (driver.solo runner w name) = false :=
      fun name hmem => hnone name (hsub hmem)
    refine ⟨⟨reordered.map driver.layout.testCase, false⟩, ?_, ?_⟩
    · exact Driver.runAll_eq_ok_iff.mpr ⟨hperm.nodup_iff.mpr hnodup,
        fun name hmem => hsources name (hsub hmem), rfl⟩
    · intro fresh hfresh hdisk
      obtain ⟨hagain, hserved'⟩ := Driver.served_of_names hbuild hfresh hdisk
        (hperm.nodup_iff.mpr hnodup) (fun name hmem => hlocal name (hsub hmem))
        (fun name hmem other hother => hapart name (hsub hmem) other (hsub hother))
      have hyields := driver.drain_yields runner (reordered.map driver.layout.testCase) fresh
      rw [hagain, Driver.upToFirst_solo hnone'] at hyields
      refine ⟨_, hyields, (hserved' hnone').same (hserved hnone) ?_⟩
      intro case
      rw [List.mem_reverse, List.mem_reverse]
      exact (hperm.map driver.layout.testCase).mem_iff

/-! ## A runner that copies -/

namespace Disk

/-- What the file at a path holds. -/
def content (d : Disk) (path : String) : Bytes :=
  match d.stat path with
  | .ok (.file content _) => content
  | _ => []

/-- Makes a program where a path leads, unless something other than a file is there. -/
def put (d : Disk) (path : String) (content : Bytes) : Disk :=
  match d.locate true path with
  | .ok l =>
    match d.node? l with
    | none | some (.file _ _) => d.set l (.file content true)
    | some _ => d
  | .error _ => d

variable {d d' : Disk} {path : String}

theorem refiled_put (d : Disk) (path : String) (content : Bytes) :
    Refiled (d.places path) d (d.put path content) := by
  have hset : ∀ l, d.locate true path = .ok l → l ≠ [] →
      Refiled (d.places path) d (d.set l (.file content true)) := by
    intro l hl hroot
    refine ⟨rfl, fun other => ?_⟩
    by_cases heq : other = l
    · rw [heq, node?_set_self d hroot]
      exact .inr ⟨mem_places_iff.mpr (.inr hl), by simp, by simp⟩
    · exact .inl (node?_set_of_ne d heq _)
  have hroot : ∀ l, d.node? l ≠ some (.directory true) → l ≠ [] := by
    rintro l hl rfl
    exact hl rfl
  unfold put
  split
  · next l hl =>
    split
    · next hn => exact hset l hl (hroot l (by simp [hn]))
    · next hn => exact hset l hl (hroot l (by simp [hn]))
    · exact ⟨rfl, fun _ => .inl rfl⟩
  · exact ⟨rfl, fun _ => .inl rfl⟩

theorem Agree.content (h : Agree (d.trail path) d d') : d'.content path = d.content path := by
  unfold Disk.content
  rw [h.stat]

theorem Agree.put (h : Agree (d.trail path) d d') (content : Bytes) {l : Location}
    (hl : d'.node? l = d.node? l) :
    (d'.put path content).node? l = (d.put path content).node? l := by
  have hset : ∀ place node, (d'.set place node).node? l = (d.set place node).node? l := by
    intro place node
    by_cases heq : l = place
    · subst heq
      by_cases hroot : l = []
      · rw [hroot]
        rfl
      · rw [node?_set_self d hroot, node?_set_self d' hroot]
    · rw [node?_set_of_ne d heq, node?_set_of_ne d' heq, hl]
  unfold Disk.put
  rw [h.locate]
  cases hplace : d.locate true path with
  | error fault => exact hl
  | ok place =>
    simp only [h.node place (mem_trail_of_locate hplace)]
    match d.node? place with
    | none | some (.file _ _) => exact hset _ _
    | some (.link _) | some (.directory _) | some (.device _) | some (.stream _) => exact hl

end Disk

/-- The source is also the IR and the executable of a case, and what each of them holds is what it
prints. -/
def TestCase.copy (case : TestCase) (d : Disk) : Step → Output × Disk
  | .reference => ({ state := .exited 0, stdout := d.content case.source }, d)
  | .compile => ({ state := .exited 0 }, d.put case.ir (d.content case.source))
  | .link => ({ state := .exited 0 }, d.put case.executable (d.content case.ir))
  | .execute => ({ state := .exited 0, stdout := d.content case.executable }, d)

/-- Does the step that an invocation stands for. -/
def Runner.copying (step? : Invocation → Option (TestCase × Step)) : Runner Unit where
  run _ d invocation :=
    match step? invocation with
    | some (case, step) => (.ok (case.copy d step).1, (), (case.copy d step).2)
    | none => (.error (cannotSpawn invocation Fault.notFound.message), (), d)

theorem Runner.copying_localTo {step? : Invocation → Option (TestCase × Step)} {tools : Toolchain}
    {case : TestCase} (h : ∀ step, step? (tools.invocation case step) = some (case, step)) :
    (Runner.copying step?).LocalTo tools case := by
  have hrun : ∀ step machine d, (Runner.copying step?).run machine d (tools.invocation case step) =
      (.ok (case.copy d step).1, (), (case.copy d step).2) := by
    intro step machine d
    simp only [Runner.copying, h step]
  have hplaces : ∀ path ∈ case.paths, ∀ d : Disk, d.places path ⊆ d.home case :=
    fun path hpath d l hl => List.mem_flatMap.mpr ⟨path, hpath, hl⟩
  have hir : case.ir ∈ case.paths := by simp [TestCase.paths]
  have hexe : case.executable ∈ case.paths := by simp [TestCase.paths]
  have hsource : case.source ∈ case.paths := by simp [TestCase.paths]
  refine ⟨?_, ?_, ?_⟩
  · intro step machine d
    rw [hrun]
    cases step with
    | reference => exact .refl _ _
    | compile => exact ((d.refiled_put case.ir _).mono (hplaces _ hir d)).inside
    | link => exact ((d.refiled_put case.executable _).mono (hplaces _ hexe d)).inside
    | execute => exact .refl _ _
  · intro step machine machine' d d' hd
    rw [hrun, hrun]
    cases step with
    | reference => simp only [TestCase.copy, (hd.path hsource).content]
    | compile => rfl
    | link => rfl
    | execute => simp only [TestCase.copy, (hd.path hexe).content]
  · intro step machine machine' d d' hd l hl
    have hnode := hd.node l (d.home_subset_reach case hl)
    rw [hrun, hrun]
    cases step with
    | reference => exact hnode
    | compile =>
      simp only [TestCase.copy, (hd.path hsource).content]
      exact (hd.path hir).put _ hnode
    | link =>
      simp only [TestCase.copy, (hd.path hir).content]
      exact (hd.path hexe).put _ hnode
    | execute => exact hnode

/-- The programs are in a directory behind a link, which the paths of all cases go through. -/
def linkedDisk : Disk :=
  (((Disk.fresh.set ["work", "corpus"] (.directory true)).set ["work", "tests"]
    (.link "corpus")).set ["work", "corpus", "a.scheme"] (.file [0x31] false)).set
      ["work", "corpus", "b.scheme"] (.file [0x32] false)

def linkedCase (name : String) : TestCase := Driver.plainDriver.layout.testCase name

/-- The step of the cases `a` and `b` that an invocation stands for. -/
def linkedStep? (invocation : Invocation) : Option (TestCase × Step) :=
  (["a", "b"].flatMap fun name => [.reference, .compile, .link, .execute].map fun step =>
    (linkedCase name, step)).find? fun order =>
      Driver.plainDriver.tools.invocation order.1 order.2 = invocation

def linkedWorld : World Unit := World.start () linkedDisk .built

def linkedRun (names : List String) : Run := ⟨names.map linkedCase, false⟩

/-- Both cases pass, in either order, and leave the same disk behind. -/
theorem linkedRun_in_either_order :
    (∀ name ∈ ["a", "b"],
      (Runner.copying linkedStep?).LocalTo Driver.plainDriver.tools (linkedCase name)) ∧
    (∀ name ∈ ["a", "b"], ∀ other ∈ ["a", "b"], name ≠ other →
      linkedDisk.Apart (linkedCase name) (linkedCase other)) ∧
    ∃ ending left,
      Driver.plainDriver.Yields (.copying linkedStep?) (linkedRun ["a", "b"]) linkedWorld
        [.ok ⟨"a", .pass⟩, .ok ⟨"b", .pass⟩] ending ∧
      Driver.plainDriver.Yields (.copying linkedStep?) (linkedRun ["b", "a"]) linkedWorld
        [.ok ⟨"b", .pass⟩, .ok ⟨"a", .pass⟩] left ∧
      left.disk.Same ending.disk := by
  have hlocal : ∀ name ∈ ["a", "b"],
      (Runner.copying linkedStep?).LocalTo Driver.plainDriver.tools (linkedCase name) := by
    intro name hname
    apply Runner.copying_localTo
    rcases List.mem_pair.mp hname with rfl | rfl
    · intro step
      cases step <;> decide
    · intro step
      cases step <;> decide
  have hapart : ∀ name ∈ ["a", "b"], ∀ other ∈ ["a", "b"], name ≠ other →
      linkedDisk.Apart (linkedCase name) (linkedCase other) := by
    unfold Disk.Apart
    decide
  obtain ⟨items, ending, hyields, -, hreorder⟩ := cases_do_not_interfere Driver.plainDriver
    (.copying linkedStep?) ["a", "b"] (linkedRun ["a", "b"]) linkedWorld rfl rfl rfl hlocal hapart
  obtain rfl : items = [.ok ⟨"a", .pass⟩, .ok ⟨"b", .pass⟩] :=
    (hyields.unique (Driver.plainDriver.drain_yields _ _ linkedWorld)).1
  obtain ⟨verdict, hverdict, hagain⟩ := hreorder (by simp)
  obtain ⟨again, hrun, hsame⟩ := hagain ["b", "a"] (List.Perm.swap _ _ _)
  cases hrun
  obtain ⟨left, hswapped, hdisk⟩ := hsame linkedWorld rfl rfl
  have hpass : verdict "a" = .pass ∧ verdict "b" = .pass := by simpa [eq_comm] using hverdict
  rw [List.map_cons, List.map_singleton, hpass.1, hpass.2] at hswapped
  exact ⟨hlocal, hapart, ending, left, hyields, hswapped, hdisk⟩

end Crosscheck
