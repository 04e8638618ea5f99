import Crosscheck.Proofs.Path
import Crosscheck.Proofs.Trail
import Mathlib.Data.List.TakeWhile

/-! # What a removal leaves behind

A removal finds its entry by following the path up to the last name. Following the whole path comes
by the same directory, so the entry is on the trail of the path, and a removal that is not refused
leaves a path that leads nowhere: either it took the entry, or there was nothing to take. No other
path is made by a removal.
-/

namespace Crosscheck

namespace Disk

variable {d : Disk}

/-! ## Following a path in two parts -/

/-- How following segments all the way, and the route of it, go on from following the ones before
`last` to a directory in which names can be looked up. -/
inductive Parted (d : Disk) (last : List String) :
    Except Fault Location → Except Fault Location → List Location → Prop
  | fault (fault : Fault) (route : List Location) : Parted d last (.error fault) (.error fault) route
  | reached (links : Nat) {dir : Location} {whole : Except Fault Location} {route : List Location}
      (hopen : d.barrier? dir = none) (hwhole : whole = d.walk true (links + 1) dir last)
      (hroute : d.route (links + 1) dir last ⊆ route) : Parted d last (.ok dir) whole route

theorem Parted.mono {last : List String} {first whole : Except Fault Location}
    {route route' : List Location} (h : Parted d last first whole route) (hroute : route ⊆ route') :
    Parted d last first whole route' := by
  cases h with
  | fault fault => exact .fault fault route'
  | reached links hopen hwhole h => exact .reached links hopen hwhole (List.Subset.trans h hroute)

theorem walk_parted {leaf : String} (hleaf : leaf ≠ "") (slashes : List String) (links : Nat)
    (here : Location) (above : List String) :
    Parted d (leaf :: slashes) (d.walk true links here (above ++ ["."]))
      (d.walk true links here (above ++ leaf :: slashes))
      (d.route links here (above ++ leaf :: slashes)) := by
  induction links generalizing here above with
  | zero => exact .fault _ _
  | succ links ih =>
    induction above generalizing here with
    | nil =>
      cases hbarrier : d.barrier? here with
      | none =>
        rw [List.nil_append, List.nil_append, walk_cons, heading_dot, hbarrier]
        exact .reached links hbarrier rfl (List.Subset.refl _)
      | some fault =>
        have hlast : d.heading here leaf = .refused fault := by simp [heading, hleaf, hbarrier]
        rw [List.nil_append, List.nil_append, walk_cons, heading_dot, hbarrier, walk_cons, hlast]
        exact .fault _ _
    | cons segment rest ihrest =>
      have hdot : rest ++ ["."] ≠ [] := by simp
      have hmore : rest ++ leaf :: slashes ≠ [] := by simp
      rw [List.cons_append, List.cons_append, walk_cons, walk_cons, route_cons]
      cases d.heading here segment with
      | stay => exact (ihrest here).mono (List.subset_cons_self _ _)
      | up => exact (ihrest here.dropLast).mono (List.subset_cons_self _ _)
      | refused fault => exact .fault _ _
      | enter => exact (ihrest _).mono (List.subset_cons_self _ _)
      | follow target =>
        -- The segments behind a link are those of its target and the ones still to come.
        have hbehind := ih (if Path.isAbsolute target then [] else here)
          (Path.segments target ++ rest)
        rw [List.append_assoc, List.append_assoc] at hbehind
        exact hbehind.mono
          (List.Subset.trans (List.subset_cons_self _ _) (List.subset_cons_self _ _))
      | stop fault =>
        simp only [hdot, hmore, if_false]
        exact .fault _ _

/-- A dot at the end takes a directory in which names can be looked up. -/
theorem barrier?_of_walk_dot {links : Nat} {here dir : Location} {above : List String}
    (h : d.walk true links here (above ++ ["."]) = .ok dir) : d.barrier? dir = none := by
  have hdot : "." ≠ "" := by decide
  have hparted := d.walk_parted hdot [] links here above
  rw [h] at hparted
  cases hparted with
  | reached _ hopen _ _ => exact hopen

/-! ## Finding the spot of a path -/

/-- The ways the spot of a path can be looked for. -/
inductive Spotted (d : Disk) (path : String) : Except Fault Spot → Prop
  | refused {fault : Fault} (h : checkName path = .error fault) : Spotted d path (.error fault)
  | lost {fault : Fault} {leaf : String} {above slashes : List String}
      (hname : checkName path = .ok ()) (hpath : Path.segments path = above ++ leaf :: slashes)
      (hleaf : leaf ≠ "")
      (hwalk : d.walk true 41 (d.origin path) (above ++ ["."]) = .error fault) :
      Spotted d path (.error fault)
  | nameless (dir : Location) (slash : Bool) : Spotted d path (.ok ⟨dir, none, slash⟩)
  | tooLong : Spotted d path (.error .nameTooLong)
  | named {dir : Location} {leaf : String} {slash : Bool} {above slashes : List String}
      (hname : checkName path = .ok ()) (hpath : Path.segments path = above ++ leaf :: slashes)
      (hleaf : IsName leaf)
      (hwalk : d.walk true 41 (d.origin path) (above ++ ["."]) = .ok dir) :
      Spotted d path (.ok ⟨dir, some leaf, slash⟩)

theorem segments_eq_of_dropWhile {path leaf : String} {before : List String}
    (h : (Path.segments path).reverse.dropWhile (· == "") = leaf :: before) :
    ∃ slashes, Path.segments path = before.reverse ++ leaf :: slashes := by
  have hsplit := List.takeWhile_append_dropWhile (p := (· == "")) (l := (Path.segments path).reverse)
  rw [h] at hsplit
  refine ⟨((Path.segments path).reverse.takeWhile (· == "")).reverse, ?_⟩
  have hreverse := congrArg List.reverse hsplit
  rw [List.reverse_reverse] at hreverse
  exact hreverse.symm.trans (by simp)

/-- A path without a name is made of slashes, and starts at the root. -/
theorem walk_of_nameless {path : String} (hpath : path ≠ "")
    (hnamed : (Path.segments path).reverse.dropWhile (· == "") = []) :
    d.walk true 41 (d.origin path) ["."] = .ok [] := by
  have hempty : ∀ segment ∈ Path.segments path, segment = "" := by
    simpa [List.dropWhile_eq_nil_iff] using hnamed
  have hhead : (Path.segments path).head? = some "" := by
    obtain ⟨first, rest, hsegments⟩ := List.exists_cons_of_ne_nil (Path.segments_ne_nil path)
    rw [hsegments, List.head?_cons, hempty first (by simp [hsegments])]
  unfold origin
  rw [Path.isAbsolute_of_head?_segments hpath hhead]
  rfl

theorem spot_spotted (d : Disk) (path : String) : Spotted d path (d.spot path) := by
  unfold spot
  simp only [bind, Except.bind]
  cases hname : checkName path with
  | error fault => exact .refused hname
  | ok _ =>
    simp only
    cases hnamed : (Path.segments path).reverse.dropWhile (· == "") with
    | nil =>
      have hpath : path ≠ "" := by
        rintro rfl
        cases hname
      simp only [List.tail_nil, List.reverse_nil, List.nil_append, walk_of_nameless hpath hnamed]
      exact .nameless _ _
    | cons leaf before =>
      obtain ⟨slashes, hpath⟩ := segments_eq_of_dropWhile hnamed
      have hleaf : leaf ≠ "" := by
        have hhead := List.head?_dropWhile_not (· == "") (Path.segments path).reverse
        rw [hnamed] at hhead
        simpa using hhead
      simp only [List.tail_cons, List.head?_cons]
      cases hwalk : d.walk true 41 (d.origin path) (before.reverse ++ ["."]) with
      | error fault => exact .lost hname hpath hleaf hwalk
      | ok dir =>
        simp only
        split
        · exact .nameless _ _
        · next hdots =>
          split
          · exact .tooLong
          · next hshort =>
            rw [not_or] at hdots
            exact .named hname hpath ⟨hleaf, hdots.1, hdots.2, hshort⟩ hwalk

theorem walk_of_isName {leaf : String} (h : IsName leaf) {links : Nat} {dir l : Location}
    {rest : List String} (hopen : d.barrier? dir = none) (hnode : d.node? (dir ++ [leaf]) = none)
    (hwalk : d.walk true (links + 1) dir (leaf :: rest) = .ok l) : d.node? l = none := by
  obtain ⟨fault, hstop⟩ := exists_heading_stop hopen h (by simp [hnode]) (by simp [hnode])
  rw [walk_cons, hstop] at hwalk
  dsimp only at hwalk
  split at hwalk <;> cases hwalk
  exact hnode

theorem locate_parted {path : String} (hname : checkName path = .ok ()) {leaf : String}
    {above slashes : List String} (hpath : Path.segments path = above ++ leaf :: slashes)
    (hleaf : leaf ≠ "") :
    Parted d (leaf :: slashes) (d.walk true 41 (d.origin path) (above ++ ["."]))
      (d.locate true path) (d.trail path) := by
  unfold locate trail
  rw [hname, hpath]
  exact walk_parted hleaf slashes 41 (d.origin path) above

/-! ## Unlinking -/

/-- The entry that a path names is on its trail. -/
theorem mem_trail_of_spot {path leaf : String} {dir : Location} {slash : Bool}
    (h : d.spot path = .ok ⟨dir, some leaf, slash⟩) : dir ++ [leaf] ∈ d.trail path := by
  have hspot := d.spot_spotted path
  rw [h] at hspot
  cases hspot with
  | @named _ _ _ above slashes hname hpath hleaf hwalk =>
    have hparted := locate_parted (d := d) hname hpath hleaf.empty
    rw [hwalk] at hparted
    cases hparted with
    | reached links hopen _ hroute => exact hroute (mem_route_of_isName hopen hleaf links slashes)

/-- Unlinking takes an entry on the trail of the path. -/
theorem exists_erase_of_unlink {path : String} {d' : Disk} (h : d.unlink path = .ok d') :
    ∃ loc, loc ≠ [] ∧ loc ∈ d.trail path ∧ d' = d.erase loc := by
  unfold unlink at h
  simp only [bind, Except.bind] at h
  split at h
  · cases h
  next spot hspot =>
  split at h
  · cases h
  next dir leaf slash =>
  refine ⟨dir ++ [leaf], by simp, mem_trail_of_spot hspot, ?_⟩
  split at h
  · cases h
  · cases h
  · split at h <;> cases h
    rfl

/-- What cannot be unlinked because it is not found does not exist. -/
theorem not_pathExists_of_unlink {path : String} (h : d.unlink path = .error .notFound) :
    ¬ d.pathExists path = true := by
  rw [pathExists_iff]
  rintro ⟨node, hstat⟩
  obtain ⟨l, hl, hnode⟩ := stat_eq_ok_iff.mp hstat
  have hspot := d.spot_spotted path
  unfold unlink at h
  generalize d.spot path = spot at h hspot
  cases hspot with
  | refused hname =>
    rw [checkName_of_locate hl] at hname
    cases hname
  | lost hname hpath hleaf hwalk =>
    have hparted := locate_parted (d := d) hname hpath hleaf
    rw [hwalk, hl] at hparted
    cases hparted
  | nameless _ _ => cases h
  | tooLong => cases h
  | @named dir leaf slash above slashes hname hpath hleaf hwalk =>
    have hparted := locate_parted (d := d) hname hpath hleaf.empty
    rw [hwalk, hl] at hparted
    simp only [bind, Except.bind] at h
    split at h
    · next hnone =>
      cases hparted with
      | reached _ hopen hwhole _ =>
        rw [walk_of_isName hleaf hopen hnone hwhole.symm] at hnode
        cases hnode
    · cases h
    · split at h <;> cases h

end Disk

/-! ## What a removal leaves behind -/

namespace Removal

/-- A removal that is not refused leaves nothing at its path: it took what was there, or nothing
was. -/
theorem pathExists_after {removal : Removal} (h : removal.outcome = .ok ()) :
    removal.after.pathExists removal.path = false := by
  rw [← Bool.not_eq_true]
  unfold after
  unfold outcome at h
  split at h
  · next disk hunlink =>
    obtain ⟨loc, hroot, htrail, rfl⟩ := Disk.exists_erase_of_unlink hunlink
    rw [hunlink]
    simp only [Disk.pathExists_erase hroot]
    exact fun hthere => hthere.2 htrail
  · next hunlink =>
    rw [hunlink]
    exact Disk.not_pathExists_of_unlink hunlink
  · cases h

/-- A removal makes no path. -/
theorem pathExists_of_after {removal : Removal} {path : String}
    (h : removal.after.pathExists path = true) : removal.before.pathExists path = true := by
  unfold after at h
  split at h
  · next disk hunlink =>
    obtain ⟨loc, hroot, -, rfl⟩ := Disk.exists_erase_of_unlink hunlink
    exact ((Disk.pathExists_erase hroot path).mp h).1
  · exact h

end Removal

end Crosscheck
