import Crosscheck.Proofs.Removal

/-! # The footprint of a case

A case has to do with three paths. Its reach are the locations looked at to follow them, its home
the places that they name: for each path the entry that goes by its last name, and where it ends
when links are followed. Two disks that agree on the reach of a case are the same to it. A change
inside the case touches nothing but its home and lets its paths lead nowhere new.
-/

namespace Crosscheck

namespace Disk

variable {d d' : Disk}

/-! ## Disks that agree along a path -/

/-- The disks have the same nodes at these locations. -/
structure Agree (locs : List Location) (d d' : Disk) : Prop where
  cwd : d'.cwd = d.cwd
  node : ∀ l ∈ locs, d'.node? l = d.node? l

/-- The way to a directory is on the route of all that is looked for in it. -/
theorem route_dot_subset (d : Disk) (last : List String) (links : Nat) (here : Location)
    (above : List String) :
    d.route links here (above ++ ["."]) ⊆ d.route links here (above ++ last) := by
  induction links generalizing here above with
  | zero => exact List.Subset.refl _
  | succ links ih =>
    induction above generalizing here with
    | nil =>
      have hself := d.mem_route_self links here last
      rw [List.nil_append, List.nil_append, route_cons, heading_dot]
      cases d.barrier? here with
      | none => simpa [route_nil] using hself
      | some fault => simpa using hself
    | cons segment rest ihrest =>
      rw [List.cons_append, List.cons_append, route_cons, route_cons]
      refine List.cons_subset_cons _ ?_
      cases d.heading here segment with
      | stay => exact ihrest here
      | up => exact ihrest here.dropLast
      | refused fault => exact List.Subset.refl _
      | enter => exact ihrest _
      | follow target =>
        have hbehind := ih (if Path.isAbsolute target then [] else here)
          (Path.segments target ++ rest)
        rw [List.append_assoc, List.append_assoc] at hbehind
        exact List.cons_subset_cons _ hbehind
      | stop fault => exact List.Subset.refl _

/-- The segments before the last name of a path. -/
theorem exists_segments_eq (path : String) : ∃ last, Path.segments path =
    ((Path.segments path).reverse.dropWhile (· == "")).tail.reverse ++ last := by
  cases hnamed : (Path.segments path).reverse.dropWhile (· == "") with
  | nil => exact ⟨_, rfl⟩
  | cons leaf before =>
    obtain ⟨slashes, hpath⟩ := segments_eq_of_dropWhile hnamed
    exact ⟨_, hpath⟩

namespace Agree

variable {path : String}

theorem origin (h : Agree (d.trail path) d d') : d'.origin path = d.origin path := by
  unfold Disk.origin
  rw [h.cwd]

theorem locate (h : Agree (d.trail path) d d') : d'.locate true path = d.locate true path := by
  unfold Disk.locate
  rw [h.origin, walk_congr h.node]

theorem spot (h : Agree (d.trail path) d d') : d'.spot path = d.spot path := by
  obtain ⟨last, hlast⟩ := exists_segments_eq path
  have hnode := h.node
  unfold Disk.trail at hnode
  rw [hlast] at hnode
  have hwalk := walk_congr fun l hl => hnode l (d.route_dot_subset last 41 _ _ hl)
  unfold Disk.spot
  simp only [h.origin, hwalk]

theorem stat (h : Agree (d.trail path) d d') : d'.stat path = d.stat path := by
  unfold Disk.stat
  rw [h.locate]
  cases hl : d.locate true path with
  | error fault => rfl
  | ok l =>
    simp only [bind, Except.bind]
    rw [h.node l (mem_trail_of_locate hl)]

theorem pathExists (h : Agree (d.trail path) d d') : d'.pathExists path = d.pathExists path := by
  unfold Disk.pathExists
  rw [h.stat]

/-- A removal goes the same way and takes the same entry. -/
theorem removal (h : Agree (d.trail path) d d') :
    Removal.outcome ⟨path, d'⟩ = Removal.outcome ⟨path, d⟩ ∧
      Removal.taken ⟨path, d'⟩ = Removal.taken ⟨path, d⟩ := by
  unfold Removal.outcome Removal.taken Disk.unlink
  simp only [h.spot]
  cases hspot : d.spot path with
  | error fault => exact ⟨rfl, rfl⟩
  | ok spot =>
    obtain ⟨dir, leaf, slash⟩ := spot
    cases leaf with
    | none => exact ⟨rfl, rfl⟩
    | some leaf =>
      have hnode := h.node _ (mem_trail_of_spot hspot)
      cases slash with
      | true =>
        simp only [bind, Except.bind, hnode, and_true]
        cases d.node? (dir ++ [leaf]) with
        | none => rfl
        | some node => cases node <;> rfl
      | false =>
        simp only [bind, Except.bind, hnode, and_true]
        cases d.node? (dir ++ [leaf]) with
        | none => rfl
        | some node => cases node <;> rfl

end Agree

/-! ## Disks with less to follow -/

namespace Refiled

variable {locs : List Location}

theorem mono {more : List Location} (h : Refiled locs d d') (hlocs : locs ⊆ more) :
    Refiled more d d' where
  cwd := h.cwd
  node := fun l => (h.node l).imp_right fun hl => ⟨hlocs hl.1, hl.2⟩

/-- A path that is found was found before, or it ends at one of the locations, where there is no
directory now. -/
theorem walk (h : Refiled locs d d') {links : Nat} {here : Location} {segments : List String}
    {l : Location} (hwalk : d'.walk true links here segments = .ok l) :
    d.walk true links here segments = .ok l ∨
      l ∈ locs ∧ ∀ searchable, d'.node? l ≠ some (.directory searchable) := by
  induction links generalizing here segments with
  | zero => cases hwalk
  | succ links ih =>
    induction segments generalizing here with
    | nil => exact .inl hwalk
    | cons segment rest ihrest =>
      rw [walk_cons] at hwalk ⊢
      rcases h.heading here segment with
        hsame | ⟨-, fault, hrefused⟩ | ⟨hmem, -, -, fault, hstop⟩
      · rw [hsame] at hwalk
        cases hheading : d.heading here segment with
        | stay =>
          rw [hheading] at hwalk
          exact ihrest hwalk
        | up =>
          rw [hheading] at hwalk
          exact ihrest hwalk
        | refused fault =>
          rw [hheading] at hwalk
          cases hwalk
        | enter =>
          rw [hheading] at hwalk
          exact ihrest hwalk
        | follow target =>
          rw [hheading] at hwalk
          exact ih hwalk
        | stop fault =>
          rw [hheading] at hwalk
          exact .inl hwalk
      · rw [hrefused] at hwalk
        cases hwalk
      · rw [hstop] at hwalk
        dsimp only at hwalk
        split at hwalk <;> cases hwalk
        cases headed_of_eq hstop with
        | last _ _ hdir _ => exact .inr ⟨hmem, hdir⟩

theorem route_subset (h : Refiled locs d d') (links : Nat) (here : Location)
    (segments : List String) : d'.route links here segments ⊆ d.route links here segments := by
  induction links generalizing here segments with
  | zero => exact List.Subset.refl _
  | succ links ih =>
    induction segments generalizing here with
    | nil => exact List.Subset.refl _
    | cons segment rest ihrest =>
      rcases h.heading here segment with
        hsame | ⟨-, fault, hrefused⟩ | ⟨-, hopen, hname, fault, hstop⟩
      · rw [route_cons, route_cons, hsame]
        refine List.cons_subset_cons _ ?_
        cases d.heading here segment with
        | stay => exact ihrest here
        | up => exact ihrest here.dropLast
        | refused fault => exact List.Subset.refl _
        | enter => exact ihrest _
        | follow target => exact List.cons_subset_cons _ (ih _ _)
        | stop fault => exact List.Subset.refl _
      · rw [route_cons, hrefused]
        simpa using mem_route_self links here (segment :: rest)
      · rw [route_cons, hstop, List.cons_subset]
        refine ⟨mem_route_self links here _, ?_⟩
        simpa using mem_route_of_isName hopen hname links rest

variable {path : String}

theorem origin (h : Refiled locs d d') (path : String) : d'.origin path = d.origin path := by
  unfold Disk.origin
  rw [h.cwd]

theorem trail_subset (h : Refiled locs d d') (path : String) : d'.trail path ⊆ d.trail path := by
  unfold trail
  rw [h.origin]
  exact h.route_subset 41 _ _

theorem locate (h : Refiled locs d d') {l : Location} (hl : d'.locate true path = .ok l) :
    d.locate true path = .ok l ∨ l ∈ locs := by
  have hname := checkName_of_locate hl
  unfold Disk.locate at hl ⊢
  rw [hname] at hl ⊢
  rw [h.origin] at hl
  exact (h.walk hl).imp_right And.left

theorem spot (h : Refiled locs d d') {spot : Spot} (hspot : d'.spot path = .ok spot) :
    d.spot path = .ok spot := by
  unfold Disk.spot at hspot ⊢
  cases hname : checkName path with
  | error fault =>
    rw [hname] at hspot
    cases hspot
  | ok _ =>
    rw [hname] at hspot
    simp only [bind, Except.bind] at hspot ⊢
    split at hspot
    · cases hspot
    next dir hdir =>
    rw [h.origin] at hdir
    rcases h.walk hdir with hwalk | ⟨-, hnone⟩
    · rw [hwalk]
      exact hspot
    · exact absurd (barrier?_eq_none_iff.mp (barrier?_of_walk_dot hdir)) (hnone true)

end Refiled

/-! ## Places -/

/-- The entry that a path names, and where it ends when links are followed. -/
def places (d : Disk) (path : String) : List Location :=
  (match d.spot path with
    | .ok ⟨dir, some leaf, _⟩ => [dir ++ [leaf]]
    | _ => []) ++
  (match d.locate true path with
    | .ok l => [l]
    | .error _ => [])

theorem mem_places_iff {path : String} {l : Location} :
    l ∈ d.places path ↔
      (∃ dir leaf slash, d.spot path = .ok ⟨dir, some leaf, slash⟩ ∧ l = dir ++ [leaf]) ∨
        d.locate true path = .ok l := by
  unfold places
  rw [List.mem_append]
  apply or_congr
  · match d.spot path with
    | .error _ | .ok ⟨_, none, _⟩ => simp
    | .ok ⟨dir, some leaf, slash⟩ =>
      rw [List.mem_singleton]
      constructor
      · exact fun h => ⟨dir, leaf, slash, rfl, h⟩
      · rintro ⟨_, _, _, hspot, rfl⟩
        cases hspot
        rfl
  · cases d.locate true path with
    | error _ => simp
    | ok _ => simp [eq_comm]

theorem places_subset_trail (path : String) : d.places path ⊆ d.trail path := by
  intro l hl
  rcases mem_places_iff.mp hl with ⟨dir, leaf, slash, hspot, rfl⟩ | hlocate
  · exact mem_trail_of_spot hspot
  · exact mem_trail_of_locate hlocate

theorem Agree.places {path : String} (h : Agree (d.trail path) d d') :
    d'.places path = d.places path := by
  unfold Disk.places
  rw [h.spot, h.locate]

theorem Refiled.places_subset {locs : List Location} (h : Refiled locs d d') (path : String) :
    d'.places path ⊆ d.places path ++ locs := by
  intro l hl
  rw [List.mem_append, mem_places_iff]
  rcases mem_places_iff.mp hl with ⟨dir, leaf, slash, hspot, rfl⟩ | hlocate
  · exact .inl (.inl ⟨dir, leaf, slash, h.spot hspot, rfl⟩)
  · exact (h.locate hlocate).imp_left .inr

/-- A removal takes nothing but the entry that its path names. -/
theorem refiled_after (d : Disk) (path : String) :
    Refiled (d.places path) d (Removal.after ⟨path, d⟩) := by
  rw [Removal.after_eq]
  cases htaken : Removal.taken ⟨path, d⟩ with
  | none => exact ⟨rfl, fun _ => .inl rfl⟩
  | some loc =>
    have hroot := Removal.taken_ne_root htaken
    have hplace : loc ∈ d.places path := by
      unfold Removal.taken at htaken
      split at htaken
      · next dir leaf hspot =>
        refine mem_places_iff.mpr (.inl ⟨dir, leaf, false, hspot, ?_⟩)
        split at htaken <;> cases htaken
        rfl
      · cases htaken
    exact (d.refiled_erase hroot).mono (List.cons_subset.mpr ⟨hplace, List.nil_subset _⟩)

/-- The removals agree as well where the disks do, on all that they take. -/
theorem Agree.after {path : String} (h : Agree (d.trail path) d d') {l : Location}
    (hl : d'.node? l = d.node? l) :
    (Removal.after ⟨path, d'⟩).node? l = (Removal.after ⟨path, d⟩).node? l := by
  rw [Removal.after_eq, Removal.after_eq, h.removal.2]
  cases htaken : Removal.taken ⟨path, d⟩ with
  | none => exact hl
  | some loc =>
    have hroot := Removal.taken_ne_root htaken
    dsimp only
    by_cases heq : l = loc
    · rw [heq, node?_erase_self d hroot, node?_erase_self d' hroot]
    · rw [node?_erase_of_ne d heq, node?_erase_of_ne d' heq]
      exact hl

end Disk

/-! ## Cases -/

def TestCase.paths (case : TestCase) : List String :=
  [case.source, case.ir, case.executable]

namespace Disk

variable {d d' : Disk} {case : TestCase}

/-- The locations that the paths of a case lead through or to. -/
def reach (d : Disk) (case : TestCase) : List Location :=
  case.paths.flatMap d.trail

/-- The locations that the paths of a case stand for. -/
def home (d : Disk) (case : TestCase) : List Location :=
  case.paths.flatMap d.places

theorem home_subset_reach (d : Disk) (case : TestCase) : d.home case ⊆ d.reach case := by
  intro l hl
  obtain ⟨path, hpath, hplace⟩ := List.mem_flatMap.mp hl
  exact List.mem_flatMap.mpr ⟨path, hpath, places_subset_trail path hplace⟩

theorem Agree.path (h : Agree (d.reach case) d d') {path : String} (hpath : path ∈ case.paths) :
    Agree (d.trail path) d d' :=
  ⟨h.cwd, fun l hl => h.node l (List.mem_flatMap.mpr ⟨path, hpath, hl⟩)⟩

theorem Agree.home (h : Agree (d.reach case) d d') : d'.home case = d.home case := by
  unfold Disk.home
  rw [List.flatMap_def, List.flatMap_def]
  exact congrArg List.flatten (List.map_congr_left fun _ hpath => (h.path hpath).places)

/-- The second disk comes of the first by changes at home, and the paths of the case lead to nothing
that they did not lead to before. -/
structure Inside (case : TestCase) (d d' : Disk) : Prop where
  cwd : d'.cwd = d.cwd
  outside : ∀ l, l ∉ d.home case → d'.node? l = d.node? l
  reach : d'.reach case ⊆ d.reach case
  home : d'.home case ⊆ d.home case

theorem Inside.refl (case : TestCase) (d : Disk) : d.Inside case d :=
  ⟨rfl, fun _ _ => rfl, List.Subset.refl _, List.Subset.refl _⟩

theorem Inside.trans {d'' : Disk} (h : d.Inside case d') (h' : d'.Inside case d'') :
    d.Inside case d'' where
  cwd := h'.cwd.trans h.cwd
  outside := fun l hl => (h'.outside l fun hmem => hl (h.home hmem)).trans (h.outside l hl)
  reach := List.Subset.trans h'.reach h.reach
  home := List.Subset.trans h'.home h.home

/-- Whatever is made of the home of a case, if it cannot be followed any further, is inside. -/
theorem Refiled.inside (h : Refiled (d.home case) d d') : d.Inside case d' where
  cwd := h.cwd
  outside := fun l hl => (h.node l).resolve_right fun hmem => hl hmem.1
  reach := by
    intro l hl
    obtain ⟨path, hpath, htrail⟩ := List.mem_flatMap.mp hl
    exact List.mem_flatMap.mpr ⟨path, hpath, h.trail_subset path htrail⟩
  home := by
    intro l hl
    obtain ⟨path, hpath, hplace⟩ := List.mem_flatMap.mp hl
    rcases List.mem_append.mp (h.places_subset path hplace) with hplace | hmem
    · exact List.mem_flatMap.mpr ⟨path, hpath, hplace⟩
    · exact hmem

theorem inside_after (d : Disk) {path : String} (hpath : path ∈ case.paths) :
    d.Inside case (Removal.after ⟨path, d⟩) :=
  ((d.refiled_after path).mono fun _ hl => List.mem_flatMap.mpr ⟨path, hpath, hl⟩).inside

end Disk

end Crosscheck
