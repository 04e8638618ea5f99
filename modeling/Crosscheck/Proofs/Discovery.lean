import Crosscheck.Proofs.Corpus
import Crosscheck.Proofs.Directory
import Crosscheck.Proofs.Text.ByteOrder
import Mathlib.Data.List.Nodup

/-! # Programs that are found

The programs found in the corpus directory are the files whose names have the source suffix behind
their last dot, so none is found under a suffix with a dot in it. Putting the suffix back gives the
name of the file, and names that differ lead to different sources, IR files and executables.
-/

namespace Crosscheck.Layout

variable {layout : Layout} {disk : Disk} {names : List String} {name : String}

/-! ## What is listed -/

theorem programName?_eq_some_iff {file : String} {node : Node} :
    layout.programName? (file, node) = some name ↔
      (∃ content mode, node = .file content mode) ∧
        Path.splitExtension file = (name, some layout.sourceSuffix) := by
  cases node with
  | file content mode =>
    simp only [programName?]
    rcases Path.splitExtension file with ⟨stem, ext⟩
    cases ext with
    | none => simp
    | some ext => simp [and_comm]
  | link target => simp [programName?]
  | directory searchable => simp [programName?]
  | device device => simp [programName?]
  | stream number => simp [programName?]

/-- Programs are listed of a directory only. -/
theorem discover_cases (h : layout.discover disk = .ok names) :
    (∃ loc searchable, disk.locate true layout.dir = .ok loc ∧
      disk.node? loc = some (.directory searchable) ∧
      names = ((disk.children loc).filterMap layout.programName?).mergeSort
        (fun a b => decide (a ≤ b))) ∨
    (names = [] ∧ ∀ searchable, disk.stat layout.dir ≠ .ok (.directory searchable)) := by
  unfold discover at h
  cases hstat : disk.stat layout.dir with
  | error fault =>
    rw [hstat] at h
    cases h
  | ok node =>
    rw [hstat] at h
    cases node with
    | directory searchable =>
      obtain ⟨loc, hlocate, hloc⟩ := Disk.stat_eq_ok_iff.mp hstat
      have hread : disk.readDir layout.dir = .ok (disk.children loc) := by
        simp [Disk.readDir, hlocate, hloc, bind, Except.bind]
      rw [hread] at h
      exact .inl ⟨loc, searchable, hlocate, hloc, (Except.ok.inj h).symm⟩
    | file content mode => exact .inr ⟨(Except.ok.inj h).symm, by simp⟩
    | link target => exact .inr ⟨(Except.ok.inj h).symm, by simp⟩
    | device device => exact .inr ⟨(Except.ok.inj h).symm, by simp⟩
    | stream number => exact .inr ⟨(Except.ok.inj h).symm, by simp⟩

theorem mem_discover_iff (h : layout.discover disk = .ok names) :
    name ∈ names ↔ ∃ file, disk.HoldsFile layout.dir file ∧
      Path.splitExtension file = (name, some layout.sourceSuffix) := by
  rcases discover_cases h with ⟨loc, searchable, hlocate, hloc, rfl⟩ | ⟨rfl, hstat⟩
  · rw [(List.mergeSort_perm _ _).mem_iff, List.mem_filterMap]
    constructor
    · rintro ⟨⟨file, node⟩, hmem, hname⟩
      obtain ⟨⟨content, mode, rfl⟩, hsplit⟩ := programName?_eq_some_iff.mp hname
      exact ⟨file, ⟨loc, searchable, content, mode, hlocate, hloc, Disk.mem_children_iff.mp hmem⟩,
        hsplit⟩
    · rintro ⟨file, ⟨loc', _, content, mode, hlocate', -, hnode⟩, hsplit⟩
      rw [hlocate] at hlocate'
      cases hlocate'
      exact ⟨(file, .file content mode), Disk.mem_children_iff.mpr hnode,
        programName?_eq_some_iff.mpr ⟨⟨content, mode, rfl⟩, hsplit⟩⟩
  · have hnone : ¬ ∃ file, disk.HoldsFile layout.dir file ∧
        Path.splitExtension file = (name, some layout.sourceSuffix) := by
      rintro ⟨file, ⟨loc, searchable, content, mode, hlocate, hloc, -⟩, -⟩
      exact hstat searchable (Disk.stat_eq_ok_iff.mpr ⟨loc, hlocate, hloc⟩)
    simp [hnone]

theorem discover_distinct (h : layout.discover disk = .ok names) : names.Nodup := by
  rcases discover_cases h with ⟨loc, -, -, -, rfl⟩ | ⟨rfl, -⟩
  · rw [(List.mergeSort_perm _ _).nodup_iff]
    refine List.Pairwise.filterMap _ ?_ (Disk.children_distinct disk loc)
    rintro ⟨file, node⟩ ⟨file', node'⟩ hne a ha b hb rfl
    obtain ⟨-, hsplit⟩ := programName?_eq_some_iff.mp ha
    obtain ⟨-, hsplit'⟩ := programName?_eq_some_iff.mp hb
    have hfile := (Path.splitExtension_eq_some_iff.mp hsplit).1
    have hfile' := (Path.splitExtension_eq_some_iff.mp hsplit').1
    exact hne (hfile.trans hfile'.symm)
  · exact List.nodup_nil

theorem discover_increasing (h : layout.discover disk = .ok names) :
    names.Pairwise fun a b => Utf8.encode a < Utf8.encode b := by
  have hsorted : names.Pairwise (· ≤ ·) := by
    rcases discover_cases h with ⟨loc, -, -, -, rfl⟩ | ⟨rfl, -⟩
    · have htrans : ∀ a b c : String, decide (a ≤ b) = true → decide (b ≤ c) = true →
          decide (a ≤ c) = true := by
        intro a b c hab hbc
        rw [decide_eq_true_eq] at hab hbc ⊢
        exact String.le_trans hab hbc
      have htotal : ∀ a b : String, (decide (a ≤ b) || decide (b ≤ a)) = true := by
        intro a b
        simpa using String.le_total a b
      have hpairs := List.pairwise_mergeSort htrans htotal
        ((disk.children loc).filterMap layout.programName?)
      simpa using hpairs
    · exact List.Pairwise.nil
  refine (hsorted.and (discover_distinct h)).imp ?_
  rintro a b ⟨hle, hne⟩
  have hlt : a < b := by
    by_contra hnot
    exact hne (String.le_antisymm hle (String.not_lt.mp hnot))
  exact Utf8.encode_lt_of_lt hlt

/-! ## The convention -/

theorem mem_discover_iff_holdsFile (hdisk : disk.Lawful) (h : layout.discover disk = .ok names) :
    name ∈ names ↔ '.' ∉ layout.sourceSuffix.toList ∧ name ≠ "" ∧
      disk.HoldsFile layout.dir (name ++ "." ++ layout.sourceSuffix) := by
  rw [mem_discover_iff h]
  constructor
  · rintro ⟨file, hfile, hsplit⟩
    obtain ⟨rfl, hext, hstem, -⟩ := Path.splitExtension_eq_some_iff.mp hsplit
    exact ⟨hext, hstem, hfile⟩
  · rintro ⟨hext, hstem, hfile⟩
    have hdots := (hdisk.isFileName_of_holdsFile hfile).dots
    exact ⟨_, hfile, Path.splitExtension_eq_some_iff.mpr ⟨rfl, hext, hstem, hdots⟩⟩

theorem slash_notMem_of_discover (hdisk : disk.Lawful) (h : layout.discover disk = .ok names)
    (hname : name ∈ names) : '/' ∉ name.toList := by
  obtain ⟨-, -, hfile⟩ := (mem_discover_iff_holdsFile hdisk h).mp hname
  have hslash := (hdisk.isFileName_of_holdsFile hfile).slash
  simp only [String.toList_append, List.mem_append, not_or] at hslash
  exact hslash.1.1

/-- The source of a program in the corpus directory is a file, unless its path is too long or it
cannot be looked up there. -/
theorem isFile_source_iff (hdisk : disk.Lawful)
    (hfile : disk.HoldsFile layout.dir (name ++ "." ++ layout.sourceSuffix)) :
    disk.isFile (layout.testCase name).source = true ↔
      (layout.testCase name).source.utf8ByteSize ≤ 4095 ∧ disk.Searchable layout.dir :=
  Disk.isFile_join_iff hfile (hdisk.isFileName_of_holdsFile hfile)

/-! ## Different names -/

theorem components_join_dot_ne {dir a b rest : String} (ha : a ≠ "") (hb : b ≠ "")
    (haslash : '/' ∉ a.toList) (hbslash : '/' ∉ b.toList) (hne : a ≠ b) :
    Path.components (Path.join dir (a ++ "." ++ rest)) ≠
      Path.components (Path.join dir (b ++ "." ++ rest)) := by
  intro h
  have hrela : Path.isAbsolute (a ++ "." ++ rest) = false := by
    rw [String.append_assoc]
    exact Path.isAbsolute_append_of_notMem ha haslash _
  have hrelb : Path.isAbsolute (b ++ "." ++ rest) = false := by
    rw [String.append_assoc]
    exact Path.isAbsolute_append_of_notMem hb hbslash _
  obtain ⟨-, hsteps⟩ := (Path.components_eq_iff _ _).mp h
  rw [Path.steps_join dir hrela, Path.steps_join dir hrelb, List.append_cancel_left_eq] at hsteps
  exact hne (Path.eq_of_steps_append_dot_eq ha hb haslash hbslash hsteps)

theorem not_aliases_of_notMem {dir a b : String} (ha : a ≠ "") (hb : b ≠ "")
    (haslash : '/' ∉ a.toList) (hbslash : '/' ∉ b.toList) (hne : a ≠ b) : ¬ Aliases dir a b := by
  unfold Aliases
  rw [Path.isAbsolute_of_notMem haslash, Path.isAbsolute_of_notMem hbslash]
  exact fun halias => hne (Path.eq_of_steps_eq_of_notMem ha hb haslash hbslash halias.1)

/-! ## Discovery and resolution -/

/-- The programs that are found come in the order of their bytes, their sources are the files of the
directory with the source suffix, and no two share a source, an IR file or an executable. They are
resolved as they stand, unless a source is further away than a path can say, or the directory can be
listed but not searched. -/
theorem discovery_agrees_with_resolution (layout : Layout) (disk : Disk) (names : List String)
    (hdisk : disk.Lawful) (h : layout.discover disk = .ok names) :
    names.Pairwise (fun a b => Utf8.encode a < Utf8.encode b) ∧
    (∀ cases, layout.resolve disk names = .ok cases ↔
      (∀ name ∈ names, (layout.testCase name).source.utf8ByteSize ≤ 4095 ∧
        disk.Searchable layout.dir) ∧
      cases = names.map layout.testCase) ∧
    (∀ path, path ∈ (names.map layout.testCase).map TestCase.source ↔
      ∃ file, disk.HoldsFile layout.dir file ∧
        (Path.splitExtension file).2 = some layout.sourceSuffix ∧
        path = Path.join layout.dir file) ∧
    (names.map layout.testCase).Pairwise fun a b =>
      Path.components a.source ≠ Path.components b.source ∧
      Path.components a.ir ≠ Path.components b.ir ∧
      Path.components a.executable ≠ Path.components b.executable := by
  have hdistinct := discover_distinct h
  have hfound : ∀ {name}, name ∈ names ↔ _ := mem_discover_iff_holdsFile hdisk h
  refine ⟨discover_increasing h, fun cases => ?_, fun path => ?_, ?_⟩
  · have hsources : (∀ name ∈ names, disk.isFile (layout.testCase name).source = true) ↔
        ∀ name ∈ names, (layout.testCase name).source.utf8ByteSize ≤ 4095 ∧
          disk.Searchable layout.dir :=
      forall₂_congr fun name hname => isFile_source_iff hdisk (hfound.mp hname).2.2
    rw [resolve_eq_ok_iff, hsources]
    exact and_iff_right hdistinct
  · rw [List.map_map, List.mem_map]
    constructor
    · rintro ⟨name, hname, rfl⟩
      obtain ⟨file, hfile, hsplit⟩ := (mem_discover_iff h).mp hname
      refine ⟨file, hfile, by rw [hsplit], ?_⟩
      rw [(Path.splitExtension_eq_some_iff.mp hsplit).1]
      rfl
    · rintro ⟨file, hfile, hext, rfl⟩
      have hsplit : Path.splitExtension file =
          ((Path.splitExtension file).1, some layout.sourceSuffix) := by rw [← hext]
      refine ⟨_, (mem_discover_iff h).mpr ⟨file, hfile, hsplit⟩, ?_⟩
      have hname := (Path.splitExtension_eq_some_iff.mp hsplit).1
      simp only [Function.comp_apply, testCase]
      rw [← hname]
  · rw [List.pairwise_map]
    refine hdistinct.imp_of_mem ?_
    intro a b ha hb hne
    have haempty := (hfound.mp ha).2.1
    have hbempty := (hfound.mp hb).2.1
    have haslash := slash_notMem_of_discover hdisk h ha
    have hbslash := slash_notMem_of_discover hdisk h hb
    refine ⟨components_join_dot_ne haempty hbempty haslash hbslash hne,
      components_join_dot_ne haempty hbempty haslash hbslash hne, ?_⟩
    rw [ne_eq, components_executable_eq_iff]
    exact not_aliases_of_notMem haempty hbempty haslash hbslash hne

/-- A disk with names that dots make hard to cut, a link and a directory. -/
def dottedDisk : Disk :=
  ((((((Disk.fresh.set ["work", "tests"] (.directory true)).set ["work", "tests", "d.scheme"]
    (.directory true)).set ["work", "tests", "l.scheme"] (.link "a.scheme")).set
      ["work", "tests", "b.test.scheme"] (.file [] false)).set ["work", "tests", "a.scheme"]
        (.file [] false)).set ["work", "tests", "...scheme"] (.file [] false)).set
          ["work", "tests", "..scheme"] (.file [] false)

theorem discover_dottedDisk :
    ({} : Layout).discover dottedDisk = .ok [".", "..", "a", "b.test"] := by
  have hlisted : ({} : Layout).discover dottedDisk =
      .ok ([".", "..", "a", "b.test"].mergeSort (fun a b => decide (a ≤ b))) := rfl
  rw [hlisted, List.mergeSort_of_pairwise (by decide)]

/-- Also names that are dots are found, and resolved one by one. -/
theorem dottedNames_are_resolved :
    dottedDisk.Lawful ∧
    ({} : Layout).discover dottedDisk = .ok [".", "..", "a", "b.test"] ∧
    ({} : Layout).resolve dottedDisk [".", "..", "a", "b.test"] =
      .ok ([".", "..", "a", "b.test"].map ({} : Layout).testCase) ∧
    Path.components "./." ≠ Path.components "./.." := by
  have hlawful : dottedDisk.Lawful := by decide
  obtain ⟨-, hresolve, -, hdiffer⟩ :=
    discovery_agrees_with_resolution {} dottedDisk _ hlawful discover_dottedDisk
  have hsearch : dottedDisk.Searchable "tests" := rfl
  have hshort : ∀ name ∈ [".", "..", "a", "b.test"],
      (({} : Layout).testCase name).source.utf8ByteSize ≤ 4095 := by decide
  have hall := (hresolve _).mpr ⟨fun name hname => ⟨hshort name hname, hsearch⟩, rfl⟩
  refine ⟨hlawful, discover_dottedDisk, hall, ?_⟩
  exact (List.rel_of_pairwise_cons hdiffer List.mem_cons_self).2.2

/-! ## Programs that are found and not resolved -/

/-- A path to the corpus directory with steps in front of it that lead nowhere. -/
def windingDir : Nat → String
  | 0 => "tests"
  | n + 1 => "." ++ "/" ++ windingDir n

theorem size_windingDir (n : Nat) : (windingDir n).utf8ByteSize = 2 * n + 5 := by
  induction n with
  | zero => rfl
  | succ n ih =>
    have hdot : ".".utf8ByteSize = 1 := rfl
    have hslash : "/".utf8ByteSize = 1 := rfl
    rw [windingDir, String.utf8ByteSize_append, String.utf8ByteSize_append, ih, hdot, hslash]
    omega

theorem isAbsolute_windingDir (n : Nat) : Path.isAbsolute (windingDir n) = false := by
  cases n with
  | zero => rfl
  | succ n => simp [windingDir, Path.isAbsolute]

theorem null_notMem_windingDir (n : Nat) : '\x00' ∉ (windingDir n).toList := by
  induction n with
  | zero => decide
  | succ n ih => simp [windingDir, ih]

theorem walk_windingDir (n : Nat) :
    sharedDisk.walk true 41 ["work"] (Path.segments (windingDir n)) = .ok ["work", "tests"] := by
  induction n with
  | zero => rfl
  | succ n ih =>
    rw [windingDir, Path.segments_append_slash]
    exact ih

theorem locate_windingDir {n : Nat} (h : n ≤ 2045) :
    sharedDisk.locate true (windingDir n) = .ok ["work", "tests"] := by
  have hsize := size_windingDir n
  have hempty : windingDir n ≠ "" := by
    intro hnone
    rw [hnone, String.utf8ByteSize_empty] at hsize
    omega
  have hcheck : Disk.checkName (windingDir n) = .ok () :=
    Disk.checkName_eq_ok_iff.mpr ⟨null_notMem_windingDir n, hempty, by omega⟩
  unfold Disk.locate Disk.origin
  rw [hcheck, isAbsolute_windingDir]
  exact walk_windingDir n

theorem source_windingDir_not_isFile {n : Nat} (h : 2042 ≤ n) :
    sharedDisk.isFile (({ dir := windingDir n } : Layout).testCase "a").source ≠ true := by
  intro hfile
  have hshort : (Path.join (windingDir n) "a.scheme").utf8ByteSize ≤ 4095 :=
    Disk.size_le_of_isFile hfile
  have hdir := size_windingDir n
  have hname : "a.scheme".utf8ByteSize = 8 := rfl
  have hrelative : Path.isAbsolute "a.scheme" = false := rfl
  have hjoin := Path.size_le_size_join (windingDir n) hrelative
  omega

theorem discover_windingDir {n : Nat} (h : n ≤ 2045) :
    ({ dir := windingDir n } : Layout).discover sharedDisk = .ok ["a"] := by
  have hlocate := locate_windingDir h
  have hstat : sharedDisk.stat (windingDir n) = .ok (.directory true) :=
    Disk.stat_eq_ok_iff.mpr ⟨_, hlocate, rfl⟩
  have hread : sharedDisk.readDir (windingDir n) = .ok (sharedDisk.children ["work", "tests"]) := by
    unfold Disk.readDir
    rw [hlocate]
    rfl
  have hlisted : (sharedDisk.children ["work", "tests"]).filterMap
      ({ dir := windingDir n } : Layout).programName? = ["a"] := rfl
  unfold discover
  rw [hstat]
  dsimp only
  rw [hread]
  dsimp only
  rw [hlisted, List.mergeSort_singleton]

/-- The directory can be listed, and nothing in it can be looked up. -/
def lockedDisk : Disk := sharedDisk.set ["work", "tests"] (.directory false)

/-- Behind a path of 4093 bytes a program is still found, but the path of its source is too long for
the system, and it is refused as unknown. So is a program in a directory that cannot be searched. -/
theorem foundPrograms_not_resolved :
    (sharedDisk.Lawful ∧
      ({ dir := windingDir 2044 } : Layout).discover sharedDisk = .ok ["a"] ∧
      ({ dir := windingDir 2044 } : Layout).resolve sharedDisk ["a"] =
        .error (.unknownCase "a" (({ dir := windingDir 2044 } : Layout).testCase "a").source)) ∧
    lockedDisk.Lawful ∧ ({} : Layout).discover lockedDisk = .ok ["a"] ∧
    ({} : Layout).resolve lockedDisk ["a"] = .error (.unknownCase "a" "tests/a.scheme") := by
  refine ⟨⟨by decide, discover_windingDir (by omega), ?_⟩, by decide, ?_, rfl⟩
  · unfold resolve resolveFrom
    rw [if_neg List.not_mem_nil, if_neg (source_windingDir_not_isFile (by omega))]
  · have hlisted : ({} : Layout).discover lockedDisk =
        .ok (["a"].mergeSort (fun a b => decide (a ≤ b))) := rfl
    rw [hlisted, List.mergeSort_singleton]

/-! ## Suffixes with dots -/

/-- All programs that follow the naming convention are found exactly if the source suffix has no
dot. With a dot in it none is found, although each of them is accepted by its name, if a path can
say where its source is and the directory can be searched. -/
theorem found_iff_suffix_undotted (layout : Layout) (disk : Disk) (names : List String)
    (hdisk : disk.Lawful) (h : layout.discover disk = .ok names) :
    (∀ name, name ≠ "" →
      disk.HoldsFile layout.dir (name ++ "." ++ layout.sourceSuffix) →
      (name ∈ names ↔ '.' ∉ layout.sourceSuffix.toList) ∧
      (layout.resolve disk [name] = .ok [layout.testCase name] ↔
        (layout.testCase name).source.utf8ByteSize ≤ 4095 ∧ disk.Searchable layout.dir)) ∧
    ('.' ∈ layout.sourceSuffix.toList → names = []) := by
  have hfound : ∀ {name}, name ∈ names ↔ _ := mem_discover_iff_holdsFile hdisk h
  refine ⟨fun name hname hfile => ⟨?_, ?_⟩, fun hdot => ?_⟩
  · rw [hfound]
    exact ⟨fun hall => hall.1, fun hsuffix => ⟨hsuffix, hname, hfile⟩⟩
  · rw [resolve_eq_ok_iff, ← isFile_source_iff hdisk hfile]
    simp
  · rw [List.eq_nil_iff_forall_not_mem]
    exact fun name hname => (hfound.mp hname).1 hdot

/-- Under the plain suffix a name may have dots of its own. -/
theorem dottedName_is_found :
    dottedDisk.HoldsFile "tests" "b.test.scheme" ∧ "b.test" ∈ [".", "..", "a", "b.test"] := by
  have hfile : dottedDisk.HoldsFile "tests" "b.test.scheme" :=
    ⟨["work", "tests"], true, [], false, rfl, rfl, rfl⟩
  obtain ⟨hfound, -⟩ :=
    found_iff_suffix_undotted {} dottedDisk _ (by decide) discover_dottedDisk
  exact ⟨hfile, (hfound "b.test" (by decide) hfile).1.mpr (by decide)⟩

/-- Under a suffix with a dot the program is there and is accepted, but it is not found. -/
theorem dottedSuffix_finds_nothing :
    dottedDisk.Lawful ∧ dottedDisk.HoldsFile "tests" ("b" ++ "." ++ "test.scheme") ∧
    ({ sourceSuffix := "test.scheme" } : Layout).discover dottedDisk = .ok [] ∧
    ({ sourceSuffix := "test.scheme" } : Layout).resolve dottedDisk ["b"] =
      .ok [⟨"b", "tests/b.test.scheme", "tests/b.ll", "./b"⟩] := by
  refine ⟨by decide, ⟨["work", "tests"], true, [], false, rfl, rfl, rfl⟩, ?_, rfl⟩
  have hlisted : ({ sourceSuffix := "test.scheme" } : Layout).discover dottedDisk =
      .ok ([].mergeSort (fun a b => decide (a ≤ b))) := rfl
  rw [hlisted, List.mergeSort_nil]

end Crosscheck.Layout
