import Crosscheck.Proofs.FileName
import Crosscheck.Proofs.Footprint

/-! # What a directory holds

A directory holds the entries one name below it, each name once. On a disk whose entries go by names
that a directory can hold, the path of a held file leads to that file, unless it is longer than the
system takes a path to be, or the directory can be listed but not searched.
-/

namespace Crosscheck.Disk

variable {d : Disk}

/-! ## Entries and names -/

theorem mem_entries_iff {loc : Location} (hloc : loc ≠ []) {node : Node} :
    (loc, node) ∈ d.entries ↔ d.node? loc = some node := by
  unfold node?
  rw [if_neg hloc, List.lookup_eq_some_iff]
  constructor
  · intro hmem
    obtain ⟨before, after, hentries⟩ := List.append_of_mem hmem
    refine ⟨before, after, hentries, ?_⟩
    -- Locations are distinct, so none of the entries before is at this one.
    have hdistinct := d.distinct
    rw [hentries, List.map_append, List.nodup_append] at hdistinct
    intro e he
    have hne : e.1 ≠ loc :=
      hdistinct.2.2 e.1 (List.mem_map_of_mem he) loc (by simp)
    simpa using hne.symm
  · rintro ⟨before, after, hentries, -⟩
    rw [hentries]
    exact List.mem_append_right _ List.mem_cons_self

theorem eq_concat_of_child {loc there : Location} {name : String}
    (hlast : there.getLast? = some name) (habove : there.dropLast = loc) : there = loc ++ [name] := by
  obtain ⟨above, rfl⟩ := List.getLast?_eq_some_iff.mp hlast
  rw [List.dropLast_concat] at habove
  rw [habove]

theorem mem_children_iff {loc : Location} {name : String} {node : Node} :
    (name, node) ∈ d.children loc ↔ d.node? (loc ++ [name]) = some node := by
  rw [← mem_entries_iff (by simp)]
  unfold children
  rw [List.mem_filterMap]
  constructor
  · rintro ⟨⟨there, held⟩, hmem, hchild⟩
    dsimp only at hchild
    split at hchild
    · next last hlast =>
      split at hchild
      · next habove =>
        cases hchild
        exact eq_concat_of_child hlast habove ▸ hmem
      · cases hchild
    · cases hchild
  · intro hmem
    exact ⟨_, hmem, by simp⟩

theorem children_distinct (d : Disk) (loc : Location) :
    (d.children loc).Pairwise fun a b => a.1 ≠ b.1 := by
  have hdistinct : d.entries.Pairwise fun a b => a.1 ≠ b.1 := List.pairwise_map.mp d.distinct
  unfold children
  refine List.Pairwise.filterMap _ ?_ hdistinct
  rintro ⟨here, held⟩ ⟨there, held'⟩ hne child hchild child' hchild' hname
  dsimp only at hne hchild hchild'
  split at hchild
  · next name hlast =>
    split at hchild'
    · next name' hlast' =>
      rw [Option.ite_none_right_eq_some] at hchild hchild'
      obtain ⟨habove, hchild⟩ := hchild
      obtain ⟨habove', hchild'⟩ := hchild'
      cases hchild
      cases hchild'
      have hnames : name = name' := hname
      rw [eq_concat_of_child hlast habove, eq_concat_of_child hlast' habove', hnames] at hne
      exact hne rfl
    · cases hchild'
  · cases hchild

/-- A name that a directory can hold. -/
structure IsFileName (name : String) : Prop extends IsName name where
  slash : '/' ∉ name.toList
  null : '\x00' ∉ name.toList

instance (name : String) : Decidable (IsFileName name) :=
  decidable_of_iff
    ((name ≠ "" ∧ name ≠ "." ∧ name ≠ ".." ∧ ¬ name.utf8ByteSize > 255) ∧
      '/' ∉ name.toList ∧ '\x00' ∉ name.toList)
    ⟨fun ⟨⟨empty, dot, dots, short⟩, slash, null⟩ => ⟨⟨empty, dot, dots, short⟩, slash, null⟩,
      fun h => ⟨⟨h.empty, h.dot, h.dots, h.short⟩, h.slash, h.null⟩⟩

/-- Everything on the disk goes by names that a directory can hold. -/
def Lawful (d : Disk) : Prop :=
  ∀ e ∈ d.entries, ∀ name ∈ e.1, IsFileName name

instance (d : Disk) : Decidable d.Lawful :=
  inferInstanceAs (Decidable (∀ e ∈ d.entries, ∀ name ∈ e.1, IsFileName name))

theorem Lawful.isFileName (h : d.Lawful) {loc : Location} {name : String} {node : Node}
    (hnode : d.node? (loc ++ [name]) = some node) : IsFileName name :=
  h _ ((mem_entries_iff (by simp)).mpr hnode) name (by simp)

/-- The directory that a path leads to holds a file of this name. -/
def HoldsFile (d : Disk) (dir name : String) : Prop :=
  ∃ loc searchable content mode, d.locate true dir = .ok loc ∧
    d.node? loc = some (.directory searchable) ∧
    d.node? (loc ++ [name]) = some (.file content mode)

/-- Names can be looked up in the directory that a path leads to. -/
def Searchable (d : Disk) (dir : String) : Prop :=
  d.stat dir = .ok (.directory true)

theorem Lawful.isFileName_of_holdsFile (h : d.Lawful) {dir name : String}
    (hfile : d.HoldsFile dir name) : IsFileName name := by
  obtain ⟨loc, searchable, content, mode, -, -, hnode⟩ := hfile
  exact h.isFileName hnode

/-! ## The path of a held file -/

/-- A path that leads to a directory can be gone on with there, whether it ends in a slash or
not. -/
theorem exists_walk_append {loc : Location} {searchable : Bool}
    (hloc : d.node? loc = some (.directory searchable)) {slash : List String}
    (hslash : slash = [] ∨ slash = [""]) (more : List String) {links : Nat} {here : Location}
    {above : List String} (hwalk : d.walk true links here (above ++ slash) = .ok loc) :
    ∃ left, d.walk true links here (above ++ more) = d.walk true (left + 1) loc more := by
  induction links generalizing here above with
  | zero => cases hwalk
  | succ links ih =>
    induction above generalizing here with
    | nil =>
      have hhere : d.walk true (links + 1) here slash = .ok here := by
        rcases hslash with rfl | rfl
        · rfl
        · have hstay : d.heading here "" = .stay := by simp [heading]
          rw [walk_cons, hstay]
          rfl
      cases hhere.symm.trans hwalk
      exact ⟨links, rfl⟩
    | cons segment rest ihrest =>
      rw [List.cons_append, walk_cons] at hwalk ⊢
      cases hheading : d.heading here segment with
      | stay =>
        rw [hheading] at hwalk
        exact ihrest hwalk
      | up =>
        rw [hheading] at hwalk
        exact ihrest hwalk
      | refused fault =>
        rw [hheading] at hwalk
        cases hwalk
      | enter =>
        rw [hheading] at hwalk
        exact ihrest hwalk
      | follow target =>
        rw [hheading] at hwalk
        dsimp only at hwalk ⊢
        rw [← List.append_assoc] at hwalk ⊢
        exact ih hwalk
      | stop fault =>
        rw [hheading] at hwalk
        dsimp only at hwalk
        split at hwalk <;> cases hwalk
        cases headed_of_eq hheading with
        | last _ _ hdir _ => exact absurd hloc (hdir searchable)

/-- A held file is found in its directory exactly if that can be searched. -/
theorem walk_file {loc : Location} {searchable mode : Bool} {name : String} {content : Bytes}
    (hloc : d.node? loc = some (.directory searchable)) (hname : IsName name)
    (hnode : d.node? (loc ++ [name]) = some (.file content mode)) (links : Nat) :
    d.walk true (links + 1) loc [name] =
      if searchable then .ok (loc ++ [name]) else .error .denied := by
  cases searchable with
  | true =>
    obtain ⟨fault, hstop⟩ := exists_heading_stop (barrier?_eq_none_iff.mpr hloc) hname
      (by simp [hnode]) (by simp [hnode])
    rw [walk_cons, hstop]
    rfl
  | false =>
    have hrefused : d.heading loc name = .refused .denied := by
      simp [heading, barrier?, hloc, hname.empty]
    rw [walk_cons, hrefused]
    rfl

theorem checkName_eq_ok_iff {path : String} :
    checkName path = .ok () ↔
      '\x00' ∉ path.toList ∧ path ≠ "" ∧ path.utf8ByteSize ≤ 4095 := by
  unfold checkName
  by_cases hnull : '\x00' ∈ path.toList
  · simp [hnull]
  · by_cases hempty : path = ""
    · simp [hempty]
    · by_cases hlong : path.utf8ByteSize > 4095
      · simp [hnull, hempty, hlong]
      · simp [hnull, hempty, hlong]
        omega

theorem checkName_join {dir name : String} (hdir : checkName dir = .ok ()) (hname : IsFileName name)
    (hshort : (Path.join dir name).utf8ByteSize ≤ 4095) :
    checkName (Path.join dir name) = .ok () := by
  obtain ⟨hnull, hempty, -⟩ := checkName_eq_ok_iff.mp hdir
  refine checkName_eq_ok_iff.mpr ⟨fun hmem => ?_, fun hnone => ?_, hshort⟩
  · rcases Path.mem_join hmem with hmem | hslash | hmem
    · exact hnull hmem
    · exact absurd hslash (by decide)
    · exact hname.null hmem
  · obtain ⟨above, habove, hjoin, -⟩ :=
      Path.segments_join dir hempty (Path.isAbsolute_of_notMem hname.slash)
    rw [hnone, Path.segments_of_notMem hname.slash] at hjoin
    have hone : [""] = above ++ [name] := hjoin
    have hlength := congrArg List.length hone
    have hpos := List.length_pos_iff.mpr habove
    simp only [List.length_append, List.length_singleton] at hlength
    omega

theorem exists_locate_join {dir name : String} {loc : Location} {searchable : Bool}
    (hdir : d.locate true dir = .ok loc) (hloc : d.node? loc = some (.directory searchable))
    (hname : IsFileName name) (hshort : (Path.join dir name).utf8ByteSize ≤ 4095) :
    ∃ left, d.locate true (Path.join dir name) = d.walk true (left + 1) loc [name] := by
  have hcheck := checkName_of_locate hdir
  have hrelative := Path.isAbsolute_of_notMem hname.slash
  obtain ⟨above, -, hjoin, hsegments⟩ :=
    Path.segments_join dir (checkName_eq_ok_iff.mp hcheck).2.1 hrelative
  have hwalk := walk_of_locate hdir
  obtain ⟨slash, hslash, habove⟩ :
      ∃ slash, (slash = [] ∨ slash = [""]) ∧ Path.segments dir = above ++ slash := by
    rcases hsegments with hsegments | hsegments
    · exact ⟨[], .inl rfl, by rw [hsegments, List.append_nil]⟩
    · exact ⟨[""], .inr rfl, hsegments⟩
  have horigin : d.origin (Path.join dir name) = d.origin dir := by
    unfold origin
    rw [Path.isAbsolute_join dir hrelative]
  unfold locate
  rw [checkName_join hcheck hname hshort, horigin, hjoin, Path.segments_of_notMem hname.slash]
  rw [habove] at hwalk
  exact exists_walk_append hloc hslash [name] hwalk

theorem size_le_of_isFile {path : String} (h : d.isFile path = true) :
    path.utf8ByteSize ≤ 4095 := by
  obtain ⟨content, mode, hstat⟩ := isFile_iff.mp h
  obtain ⟨l, hl, -⟩ := stat_eq_ok_iff.mp hstat
  exact (checkName_eq_ok_iff.mp (checkName_of_locate hl)).2.2

/-- The path of a held file leads to it exactly if it is not too long and the directory can be
searched. -/
theorem isFile_join_iff {dir name : String} (hfile : d.HoldsFile dir name)
    (hname : IsFileName name) :
    d.isFile (Path.join dir name) = true ↔
      (Path.join dir name).utf8ByteSize ≤ 4095 ∧ d.Searchable dir := by
  obtain ⟨loc, searchable, content, mode, hdir, hloc, hnode⟩ := hfile
  have hsearch : d.Searchable dir ↔ searchable = true := by
    unfold Searchable
    rw [stat_eq_ok_iff, hdir]
    simp [hloc]
  rw [hsearch]
  constructor
  · intro h
    have hshort := size_le_of_isFile h
    refine ⟨hshort, ?_⟩
    obtain ⟨left, hlocate⟩ := exists_locate_join hdir hloc hname hshort
    rw [walk_file hloc hname.toIsName hnode] at hlocate
    obtain ⟨_, _, hstat⟩ := isFile_iff.mp h
    obtain ⟨l, hl, -⟩ := stat_eq_ok_iff.mp hstat
    rw [hlocate] at hl
    split at hl
    · next hsearchable => exact hsearchable
    · cases hl
  · rintro ⟨hshort, rfl⟩
    obtain ⟨left, hlocate⟩ := exists_locate_join hdir hloc hname hshort
    rw [walk_file hloc hname.toIsName hnode] at hlocate
    exact isFile_iff.mpr ⟨content, mode, stat_eq_ok_iff.mpr ⟨_, hlocate, hnode⟩⟩

end Crosscheck.Disk
