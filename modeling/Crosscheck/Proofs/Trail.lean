import Crosscheck.Session

/-! # The trail of a path

Following a path looks at one location after another: the directories and links on the way, and the
place where it ends. These make up its trail. Nothing else on the disk matters to the path: it leads
to the same node when an entry off its trail is erased, and to none when one on its trail is. So a
removal costs the harness a file exactly if the entry it takes is on the trail of that file.
-/

namespace Crosscheck

namespace Disk

/-! ## Erasing and setting -/

theorem lookup_filter_of_ne {loc other : Location} (h : other ≠ loc)
    (entries : List (Location × Node)) :
    (entries.filter fun e => e.1 ≠ loc).lookup other = entries.lookup other := by
  induction entries with
  | nil => rfl
  | cons e entries ih =>
    obtain ⟨here, node⟩ := e
    by_cases hh : here = loc
    · have hb : (other == here) = false := by
        rw [beq_eq_false_iff_ne, hh]
        exact h
      rw [List.filter_cons_of_neg (by simp [hh]), ih, List.lookup_cons, hb]
    · rw [List.filter_cons_of_pos (by simp [hh]), List.lookup_cons, List.lookup_cons, ih]

theorem node?_erase_of_ne (d : Disk) {loc other : Location} (h : other ≠ loc) :
    (d.erase loc).node? other = d.node? other := by
  unfold node? erase
  rw [lookup_filter_of_ne h]

/-- The root cannot be erased. -/
theorem node?_erase_self (d : Disk) {loc : Location} (h : loc ≠ []) :
    (d.erase loc).node? loc = none := by
  unfold node? erase
  rw [if_neg h, List.lookup_eq_none_iff]
  intro e he
  have hne : e.1 ≠ loc := of_decide_eq_true (List.mem_filter.mp he).2
  simpa using hne.symm

theorem node?_set_self (d : Disk) {loc : Location} (h : loc ≠ []) (node : Node) :
    (d.set loc node).node? loc = some node := by
  unfold node? set
  rw [if_neg h, List.lookup_cons, beq_self_eq_true]

theorem node?_set_of_ne (d : Disk) {loc other : Location} (h : other ≠ loc) (node : Node) :
    (d.set loc node).node? other = d.node? other := by
  have hb : (other == loc) = false := beq_eq_false_iff_ne.mpr h
  rw [← node?_erase_of_ne d h]
  unfold node? set
  rw [List.lookup_cons, hb]

/-! ## One segment at a time -/

/-- A segment that names an entry of a directory. -/
structure IsName (segment : String) : Prop where
  empty : segment ≠ ""
  dot : segment ≠ "."
  dots : segment ≠ ".."
  short : ¬ segment.utf8ByteSize > 255

/-- The ways a segment can be read. Only a name is looked for below the location. -/
inductive Headed (d : Disk) (here : Location) (segment : String) : Heading → Prop
  | skipped (hempty : segment = "") : Headed d here segment .stay
  | barred {fault : Fault} (hbarrier : d.barrier? here = some fault) :
      Headed d here segment (.refused fault)
  | dot (hopen : d.barrier? here = none) (hdot : segment = ".") : Headed d here segment .stay
  | dots (hopen : d.barrier? here = none) (hdots : segment = "..") : Headed d here segment .up
  | long (hlong : segment.utf8ByteSize > 255) : Headed d here segment (.refused .nameTooLong)
  | directory {searchable : Bool} (hopen : d.barrier? here = none) (hname : IsName segment)
      (hnode : d.node? (here ++ [segment]) = some (.directory searchable)) :
      Headed d here segment .enter
  | link {target : String} (hopen : d.barrier? here = none) (hname : IsName segment)
      (hnode : d.node? (here ++ [segment]) = some (.link target)) :
      Headed d here segment (.follow target)
  | last {fault : Fault} (hopen : d.barrier? here = none) (hname : IsName segment)
      (hdir : ∀ searchable, d.node? (here ++ [segment]) ≠ some (.directory searchable))
      (hlink : ∀ target, d.node? (here ++ [segment]) ≠ some (.link target)) :
      Headed d here segment (.stop fault)

theorem heading_headed (d : Disk) (here : Location) (segment : String) :
    Headed d here segment (d.heading here segment) := by
  unfold heading
  split
  · next hempty => exact .skipped hempty
  next hempty =>
  split
  · next fault hbarrier => exact .barred hbarrier
  next hopen =>
  split
  · next hdot => exact .dot hopen hdot
  next hdot =>
  split
  · next hdots => exact .dots hopen hdots
  next hdots =>
  split
  · next hlong => exact .long hlong
  next hlong =>
  have hname : IsName segment := ⟨hempty, hdot, hdots, hlong⟩
  split
  · next hnode => exact .directory hopen hname hnode
  · next hnode => exact .link hopen hname hnode
  · next hnode => exact .last hopen hname (by simp [hnode]) (by simp [hnode])
  · next hnode => exact .last hopen hname (by simp [hnode]) (by simp [hnode])
  · next hnode => exact .last hopen hname (by simp [hnode]) (by simp [hnode])
  · next hnode => exact .last hopen hname (by simp [hnode]) (by simp [hnode])

theorem headed_of_eq {d : Disk} {here : Location} {segment : String} {heading : Heading}
    (h : d.heading here segment = heading) : Headed d here segment heading :=
  h ▸ d.heading_headed here segment

section

variable {d d' : Disk} {here : Location} {segment : String}

theorem barrier?_congr (h : d'.node? here = d.node? here) : d'.barrier? here = d.barrier? here := by
  unfold barrier?
  rw [h]

/-- Names can be looked up in searchable directories only. -/
theorem barrier?_eq_none_iff : d.barrier? here = none ↔ d.node? here = some (.directory true) := by
  unfold barrier?
  split <;> simp_all

theorem heading_dot (d : Disk) (here : Location) :
    d.heading here "." =
      match d.barrier? here with
      | none => .stay
      | some fault => .refused fault := by
  unfold heading
  rw [if_neg (by decide)]
  cases d.barrier? here <;> rfl

theorem exists_heading_refused (hempty : segment ≠ "") (hbarrier : d.barrier? here ≠ none) :
    ∃ fault, d.heading here segment = .refused fault := by
  obtain ⟨fault, hfault⟩ := Option.ne_none_iff_exists'.mp hbarrier
  exact ⟨fault, by simp [heading, hempty, hfault]⟩

theorem exists_heading_stop (hopen : d.barrier? here = none) (hname : IsName segment)
    (hdir : ∀ searchable, d.node? (here ++ [segment]) ≠ some (.directory searchable))
    (hlink : ∀ target, d.node? (here ++ [segment]) ≠ some (.link target)) :
    ∃ fault, d.heading here segment = .stop fault := by
  unfold heading
  rw [if_neg hname.empty, hopen]
  dsimp only
  rw [if_neg hname.dot, if_neg hname.dots, if_neg hname.short]
  split
  · next hnode => exact absurd hnode (hdir _)
  · next hnode => exact absurd hnode (hlink _)
  · exact ⟨_, rfl⟩
  · exact ⟨_, rfl⟩
  · exact ⟨_, rfl⟩
  · exact ⟨_, rfl⟩

/-- A segment means the same where the same is found. -/
theorem heading_congr (hhere : d'.node? here = d.node? here)
    (hthere : d.barrier? here = none → IsName segment →
      d'.node? (here ++ [segment]) = d.node? (here ++ [segment])) :
    d'.heading here segment = d.heading here segment := by
  unfold heading
  rw [barrier?_congr hhere]
  split
  · rfl
  next hempty =>
  cases hopen : d.barrier? here with
  | some fault => rfl
  | none =>
    dsimp only
    split
    · rfl
    next hdot =>
    split
    · rfl
    next hdots =>
    split
    · rfl
    next hlong =>
    rw [hthere hopen ⟨hempty, hdot, hdots, hlong⟩]

end

/-! ## Looking at locations -/

/-- The locations that `walkSegments` looks at, with the place where it ends. `onward` gives those
behind a link. -/
def routeSegments (d : Disk) (onward : Location → String → List String → List Location) :
    Location → List String → List Location
  | here, [] => [here]
  | here, segment :: rest =>
    here ::
      match d.heading here segment with
      | .stay => routeSegments d onward here rest
      | .up => routeSegments d onward here.dropLast rest
      | .refused _ => []
      | .enter => routeSegments d onward (here ++ [segment]) rest
      | .follow target => (here ++ [segment]) :: onward here target rest
      | .stop _ => [here ++ [segment]]

/-- The locations looked at when segments are followed through at most `links` links. -/
def route (d : Disk) : Nat → Location → List String → List Location
  | 0, _, _ => []
  | links + 1, here, segments =>
    d.routeSegments
      (fun base target rest =>
        route d links (if Path.isAbsolute target then [] else base)
          (Path.segments target ++ rest))
      here segments

/-- The locations looked at to find what a path leads to, links followed. -/
def trail (d : Disk) (path : String) : List Location :=
  d.route 41 (d.origin path) (Path.segments path)

variable {d d' : Disk} {loc here : Location} {links : Nat} {segment : String}

theorem walk_cons (links : Nat) (here : Location) (segment : String) (rest : List String) :
    d.walk true (links + 1) here (segment :: rest) =
      match d.heading here segment with
      | .stay => d.walk true (links + 1) here rest
      | .up => d.walk true (links + 1) here.dropLast rest
      | .refused fault => .error fault
      | .enter => d.walk true (links + 1) (here ++ [segment]) rest
      | .follow target =>
        d.walk true links (if Path.isAbsolute target then [] else here)
          (Path.segments target ++ rest)
      | .stop fault => if rest = [] then .ok (here ++ [segment]) else .error fault := by
  rw [walk, walkSegments]
  cases d.heading here segment with
  | follow target => simp only [Bool.true_eq_false, and_false, if_false]
  | stay | up | refused _ | enter | stop _ => rfl

theorem route_nil (links : Nat) (here : Location) : d.route (links + 1) here [] = [here] := rfl

theorem route_cons (links : Nat) (here : Location) (segment : String) (rest : List String) :
    d.route (links + 1) here (segment :: rest) =
      here ::
        match d.heading here segment with
        | .stay => d.route (links + 1) here rest
        | .up => d.route (links + 1) here.dropLast rest
        | .refused _ => []
        | .enter => d.route (links + 1) (here ++ [segment]) rest
        | .follow target =>
          (here ++ [segment]) :: d.route links (if Path.isAbsolute target then [] else here)
            (Path.segments target ++ rest)
        | .stop _ => [here ++ [segment]] := by
  rw [route, routeSegments]
  cases d.heading here segment <;> rfl

theorem mem_route_self (links : Nat) (here : Location) (segments : List String) :
    here ∈ d.route (links + 1) here segments := by
  cases segments with
  | nil => exact List.mem_singleton_self _
  | cons segment rest =>
    rw [route_cons]
    exact List.mem_cons_self

/-- A name that is looked for is on the route. -/
theorem mem_route_of_isName (hopen : d.barrier? here = none) (hname : IsName segment) (links : Nat)
    (rest : List String) : here ++ [segment] ∈ d.route (links + 1) here (segment :: rest) := by
  rw [route_cons]
  refine List.mem_cons_of_mem _ ?_
  have hheaded := d.heading_headed here segment
  generalize d.heading here segment = heading at hheaded ⊢
  cases hheaded with
  | skipped hempty => exact absurd hempty hname.empty
  | barred hbarrier =>
    rw [hopen] at hbarrier
    cases hbarrier
  | dot _ hdot => exact absurd hdot hname.dot
  | dots _ hdots => exact absurd hdots hname.dots
  | long hlong => exact absurd hlong hname.short
  | directory _ _ _ => exact mem_route_self links _ rest
  | link _ _ _ => exact List.mem_cons_self
  | last _ _ _ _ => exact List.mem_cons_self

/-- A path ends on its route. -/
theorem mem_route_of_walk {segments : List String} {l : Location}
    (h : d.walk true links here segments = .ok l) : l ∈ d.route links here segments := by
  induction links generalizing here segments with
  | zero => cases h
  | succ links ih =>
    induction segments generalizing here with
    | nil =>
      cases h
      exact mem_route_self links _ []
    | cons segment rest ihrest =>
      rw [walk_cons] at h
      rw [route_cons]
      refine List.mem_cons_of_mem _ ?_
      cases hheading : d.heading here segment with
      | stay =>
        rw [hheading] at h
        exact ihrest h
      | up =>
        rw [hheading] at h
        exact ihrest h
      | refused fault =>
        rw [hheading] at h
        cases h
      | enter =>
        rw [hheading] at h
        exact ihrest h
      | follow target =>
        rw [hheading] at h
        exact List.mem_cons_of_mem _ (ih h)
      | stop fault =>
        rw [hheading] at h
        dsimp only at h
        split at h <;> cases h
        exact List.mem_singleton_self _

/-- What is off its route does not matter to a path. -/
theorem walk_congr {segments : List String}
    (h : ∀ l ∈ d.route links here segments, d'.node? l = d.node? l) :
    d'.walk true links here segments = d.walk true links here segments := by
  induction links generalizing here segments with
  | zero => rfl
  | succ links ih =>
    induction segments generalizing here with
    | nil => rfl
    | cons segment rest ihrest =>
      have hheading : d'.heading here segment = d.heading here segment :=
        heading_congr (h here (mem_route_self links here _))
          fun hopen hname => h _ (mem_route_of_isName hopen hname links rest)
      rw [route_cons, List.forall_mem_cons] at h
      obtain ⟨-, h⟩ := h
      rw [walk_cons, walk_cons, hheading]
      cases hh : d.heading here segment with
      | stay =>
        rw [hh] at h
        exact ihrest h
      | up =>
        rw [hh] at h
        exact ihrest h
      | refused fault => rfl
      | enter =>
        rw [hh] at h
        exact ihrest h
      | follow target =>
        rw [hh] at h
        exact ih fun l hl => h l (List.mem_cons_of_mem _ hl)
      | stop fault => rfl

/-! ## Disks with less to follow -/

/-- The disks differ at these locations only, and there the second has nothing that can be followed
any further. -/
structure Refiled (locs : List Location) (d d' : Disk) : Prop where
  cwd : d'.cwd = d.cwd
  node : ∀ l, d'.node? l = d.node? l ∨
    l ∈ locs ∧ (∀ searchable, d'.node? l ≠ some (.directory searchable)) ∧
      ∀ target, d'.node? l ≠ some (.link target)

/-- A segment means what it did, or there is no way on from here. -/
theorem Refiled.heading {locs : List Location} (h : Refiled locs d d') (here : Location)
    (segment : String) :
    d'.heading here segment = d.heading here segment ∨
      (here ∈ locs ∧ ∃ fault, d'.heading here segment = .refused fault) ∨
      (here ++ [segment] ∈ locs ∧ d.barrier? here = none ∧ IsName segment ∧
        ∃ fault, d'.heading here segment = .stop fault) := by
  by_cases hempty : segment = ""
  · exact .inl (by simp [Disk.heading, hempty])
  rcases h.node here with hhere | ⟨hmem, hdir, -⟩
  · by_cases hlooks : d.barrier? here = none ∧ IsName segment
    · rcases h.node (here ++ [segment]) with hthere | ⟨hmem, hdir, hlink⟩
      · exact .inl (heading_congr hhere fun _ _ => hthere)
      · refine .inr (.inr ⟨hmem, hlooks.1, hlooks.2, ?_⟩)
        exact exists_heading_stop ((barrier?_congr hhere).trans hlooks.1) hlooks.2 hdir hlink
    · exact .inl (heading_congr hhere fun hopen hname => absurd ⟨hopen, hname⟩ hlooks)
  · refine .inr (.inl ⟨hmem, ?_⟩)
    have hbarrier : d'.barrier? here ≠ none := fun hopen => hdir _ (barrier?_eq_none_iff.mp hopen)
    exact exists_heading_refused hempty hbarrier

theorem refiled_erase (d : Disk) (hroot : loc ≠ []) : Refiled [loc] d (d.erase loc) := by
  refine ⟨rfl, fun l => ?_⟩
  by_cases hl : l = loc
  · rw [hl, node?_erase_self d hroot]
    exact .inr ⟨List.mem_singleton_self _, by simp, by simp⟩
  · exact .inl (node?_erase_of_ne d hl)

/-! ## What erasing does to a path -/

/-- A path that went through the erased entry ends there now, if anywhere. -/
theorem eq_of_walk_erase (hroot : loc ≠ []) {segments : List String} {l : Location}
    (hloc : loc ∈ d.route links here segments)
    (hwalk : (d.erase loc).walk true links here segments = .ok l) : l = loc := by
  induction links generalizing here segments with
  | zero => cases hwalk
  | succ links ih =>
    induction segments generalizing here with
    | nil =>
      cases hwalk
      exact (List.mem_singleton.mp hloc).symm
    | cons segment rest ihrest =>
      rw [walk_cons] at hwalk
      rw [route_cons, List.mem_cons] at hloc
      by_cases hhere : here = loc
      · -- Nothing but an empty segment gets past a directory that is gone.
        subst hhere
        by_cases hempty : segment = ""
        · have hstay : (d.erase here).heading here segment = .stay := by simp [heading, hempty]
          rw [hstay] at hwalk
          exact ihrest (mem_route_self links here rest) hwalk
        · have hbarrier : (d.erase here).barrier? here ≠ none := by
            rw [ne_eq, barrier?_eq_none_iff, node?_erase_self d hroot]
            simp
          obtain ⟨fault, hrefused⟩ := exists_heading_refused hempty hbarrier
          rw [hrefused] at hwalk
          cases hwalk
      replace hloc := hloc.resolve_left (Ne.symm hhere)
      rcases (d.refiled_erase hroot).heading here segment with
        hsame | ⟨hmem, fault, hrefused⟩ | ⟨hmem, -, -, fault, hstop⟩
      · rw [hsame] at hwalk
        cases hheading : d.heading here segment with
        | stay =>
          rw [hheading] at hwalk hloc
          exact ihrest hloc hwalk
        | up =>
          rw [hheading] at hwalk hloc
          exact ihrest hloc hwalk
        | refused fault =>
          rw [hheading] at hwalk
          cases hwalk
        | enter =>
          rw [hheading] at hwalk hloc
          exact ihrest hloc hwalk
        | follow target =>
          rw [hheading] at hwalk hloc
          rcases List.mem_cons.mp hloc with hthere | hloc
          · -- A link that is still followed is not the one that was erased.
            cases headed_of_eq (hsame.trans hheading) with
            | link _ _ hnode =>
              rw [← hthere, node?_erase_self d hroot] at hnode
              cases hnode
          · exact ih hloc hwalk
        | stop fault =>
          rw [hheading] at hwalk hloc
          dsimp only at hwalk
          split at hwalk <;> cases hwalk
          exact (List.mem_singleton.mp hloc).symm
      · rw [hrefused] at hwalk
        cases hwalk
      · rw [hstop] at hwalk
        dsimp only at hwalk
        split at hwalk <;> cases hwalk
        exact List.mem_singleton.mp hmem

theorem checkName_of_locate {follow : Bool} {path : String} {l : Location}
    (h : d.locate follow path = .ok l) : checkName path = .ok () := by
  unfold locate at h
  cases hname : checkName path with
  | error fault =>
    rw [hname] at h
    cases h
  | ok _ => rfl

theorem walk_of_locate {follow : Bool} {path : String} {l : Location}
    (h : d.locate follow path = .ok l) :
    d.walk follow 41 (d.origin path) (Path.segments path) = .ok l := by
  have hname := checkName_of_locate h
  unfold locate at h
  rw [hname] at h
  exact h

theorem stat_eq_ok_iff {path : String} {node : Node} :
    d.stat path = .ok node ↔ ∃ l, d.locate true path = .ok l ∧ d.node? l = some node := by
  unfold stat
  cases hl : d.locate true path with
  | error fault => simp [bind, Except.bind]
  | ok l =>
    simp only [bind, Except.bind, Except.ok.injEq, exists_eq_left']
    cases d.node? l with
    | none => simp
    | some other => simp

theorem isFile_iff {path : String} :
    d.isFile path = true ↔ ∃ content mode, d.stat path = .ok (.file content mode) := by
  unfold isFile
  match d.stat path with
  | .ok (.file content mode) => simp
  | .ok (.link _) | .ok (.directory _) | .ok (.device _) | .ok (.stream _) | .error _ => simp

theorem pathExists_iff {path : String} :
    d.pathExists path = true ↔ ∃ node, d.stat path = .ok node := by
  unfold pathExists
  cases d.stat path with
  | error fault => simp
  | ok node => simp

theorem mem_trail_of_locate {path : String} {l : Location} (h : d.locate true path = .ok l) :
    l ∈ d.trail path :=
  mem_route_of_walk (walk_of_locate h)

theorem locate_erase {path : String} (hoff : loc ∉ d.trail path) :
    (d.erase loc).locate true path = d.locate true path := by
  have horigin : (d.erase loc).origin path = d.origin path := rfl
  have hwalk : (d.erase loc).walk true 41 (d.origin path) (Path.segments path) =
      d.walk true 41 (d.origin path) (Path.segments path) :=
    walk_congr fun l hl => node?_erase_of_ne d fun heq => hoff (heq ▸ hl)
  unfold locate
  rw [horigin, hwalk]

theorem eq_of_locate_erase (hroot : loc ≠ []) {path : String} {l : Location}
    (hloc : loc ∈ d.trail path) (h : (d.erase loc).locate true path = .ok l) : l = loc :=
  eq_of_walk_erase hroot hloc (walk_of_locate h)

/-- A path still leads where it did exactly if the erased entry is off its trail; otherwise it leads
nowhere. -/
theorem stat_erase (hroot : loc ≠ []) (path : String) (node : Node) :
    (d.erase loc).stat path = .ok node ↔ d.stat path = .ok node ∧ loc ∉ d.trail path := by
  rw [stat_eq_ok_iff, stat_eq_ok_iff]
  constructor
  · rintro ⟨l, hl, hn⟩
    have hne : l ≠ loc := by
      rintro rfl
      rw [node?_erase_self d hroot] at hn
      cases hn
    have hoff : loc ∉ d.trail path := fun hloc => hne (eq_of_locate_erase hroot hloc hl)
    rw [locate_erase hoff] at hl
    rw [node?_erase_of_ne d hne] at hn
    exact ⟨⟨l, hl, hn⟩, hoff⟩
  · rintro ⟨⟨l, hl, hn⟩, hoff⟩
    have hne : l ≠ loc := by
      rintro rfl
      exact hoff (mem_trail_of_locate hl)
    refine ⟨l, ?_, ?_⟩
    · rw [locate_erase hoff, hl]
    · rw [node?_erase_of_ne d hne, hn]

theorem isFile_erase (hroot : loc ≠ []) (path : String) :
    (d.erase loc).isFile path = true ↔ d.isFile path = true ∧ loc ∉ d.trail path := by
  simp only [isFile_iff, stat_erase hroot, exists_and_right]

theorem pathExists_erase (hroot : loc ≠ []) (path : String) :
    (d.erase loc).pathExists path = true ↔ d.pathExists path = true ∧ loc ∉ d.trail path := by
  simp only [pathExists_iff, stat_erase hroot, exists_and_right]

/-! ## Trails without links -/

/-- A location all the way down to which there are directories. -/
def Reaches (d : Disk) (here : Location) : Prop :=
  ∀ loc, loc <+: here → ∃ searchable, d.node? loc = some (.directory searchable)

/-- The path starts in a directory and meets no links. -/
structure Plain (d : Disk) (path : String) : Prop where
  home : d.Reaches d.cwd
  links : ∀ l ∈ d.trail path, ∀ target, d.node? l ≠ some (.link target)

theorem reaches_origin (h : d.Reaches d.cwd) (path : String) : d.Reaches (d.origin path) := by
  unfold origin
  split
  · intro l hl
    rw [List.prefix_nil.mp hl]
    exact ⟨true, rfl⟩
  · exact h

theorem Reaches.dropLast (h : d.Reaches here) : d.Reaches here.dropLast :=
  fun l hl => h l (hl.trans (List.dropLast_prefix here))

theorem Reaches.enter (h : d.Reaches here) (henter : d.heading here segment = .enter) :
    d.Reaches (here ++ [segment]) := by
  intro l hl
  rcases List.prefix_concat_iff.mp hl with rfl | hl
  · cases headed_of_eq henter with
    | directory _ _ hnode => exact ⟨_, hnode⟩
  · exact h l hl

/-- Without links, only the end of a trail can be anything but a directory, and it has the name the
path ends in. -/
theorem getLast?_of_mem_route {l : Location} {segments : List String} (hhere : d.Reaches here)
    (hwalk : d.walk true (links + 1) here segments = .ok l)
    (hlinks : ∀ l ∈ d.route (links + 1) here segments, ∀ target, d.node? l ≠ some (.link target))
    (hloc : loc ∈ d.route (links + 1) here segments)
    (hnode : ∀ searchable, d.node? loc ≠ some (.directory searchable)) :
    loc.getLast? = segments.getLast? := by
  have hne : ∀ {there}, d.Reaches there → loc ≠ there := by
    rintro _ hreaches rfl
    obtain ⟨searchable, hdir⟩ := hreaches loc List.prefix_rfl
    exact hnode searchable hdir
  induction segments generalizing here with
  | nil => exact absurd (List.mem_singleton.mp hloc) (hne hhere)
  | cons segment rest ih =>
    -- A rest that ends in no name would have led to a directory.
    have hrest : loc.getLast? = rest.getLast? → loc.getLast? = (segment :: rest).getLast? := by
      intro hlast
      cases rest with
      | nil =>
        rw [List.getLast?_nil, List.getLast?_eq_none_iff] at hlast
        rw [hlast] at hnode
        exact absurd rfl (hnode true)
      | cons _ _ => rw [hlast, List.getLast?_cons_cons]
    rw [walk_cons] at hwalk
    rw [route_cons, List.forall_mem_cons] at hlinks
    rw [route_cons, List.mem_cons] at hloc
    replace hloc := hloc.resolve_left (hne hhere)
    replace hlinks := hlinks.2
    cases hheading : d.heading here segment with
    | stay =>
      rw [hheading] at hwalk hlinks hloc
      exact hrest (ih hhere hwalk hlinks hloc)
    | up =>
      rw [hheading] at hwalk hlinks hloc
      exact hrest (ih hhere.dropLast hwalk hlinks hloc)
    | refused fault =>
      rw [hheading] at hwalk
      cases hwalk
    | enter =>
      rw [hheading] at hwalk hlinks hloc
      exact hrest (ih (hhere.enter hheading) hwalk hlinks hloc)
    | follow target =>
      rw [hheading] at hlinks
      cases headed_of_eq hheading with
      | link _ _ hlink => exact absurd hlink (hlinks _ List.mem_cons_self target)
    | stop fault =>
      rw [hheading] at hwalk hloc
      rw [List.mem_singleton.mp hloc, List.getLast?_concat]
      dsimp only at hwalk
      split at hwalk
      · next hend => rw [hend, List.getLast?_singleton]
      · cases hwalk

/-- A spot with a name and no slash behind it has the name the path ends in. -/
theorem getLast?_of_spot {path leaf : String} {dir : Location}
    (h : d.spot path = .ok ⟨dir, some leaf, false⟩) :
    (Path.segments path).getLast? = some leaf := by
  unfold spot at h
  simp only [bind, Except.bind] at h
  split at h
  · cases h
  split at h
  · cases h
  split at h
  · cases h
  next name hname =>
  split at h
  · cases h
  split at h
  · cases h
  simp only [Except.ok.injEq, Spot.mk.injEq, Option.some.injEq, beq_eq_false_iff_ne] at h
  obtain ⟨-, rfl, hslash⟩ := h
  rw [← List.head?_reverse] at hslash ⊢
  cases hr : (Path.segments path).reverse with
  | nil =>
    rw [hr] at hname
    cases hname
  | cons last before =>
    rw [hr, List.head?_cons] at hslash
    rw [hr, List.dropWhile_cons_of_neg (by simpa using hslash)] at hname
    exact hname

end Disk

/-! ## What a removal takes -/

namespace Removal

/-- The entry that goes when the removal is made: what the path names, be it a link, unless that is
a directory. -/
def taken (removal : Removal) : Option Location :=
  match removal.before.spot removal.path with
  | .ok ⟨dir, some leaf, false⟩ =>
    match removal.before.node? (dir ++ [leaf]) with
    | none | some (.directory _) => none
    | some _ => some (dir ++ [leaf])
  | _ => none

/-- The removal takes an entry that the path needs to lead to its file. -/
structure Breaks (removal : Removal) (path : String) : Prop where
  file : removal.before.isFile path = true
  taken : ∃ loc, removal.taken = some loc ∧ loc ∈ removal.before.trail path

theorem after_eq (removal : Removal) :
    removal.after = match removal.taken with
      | some loc => removal.before.erase loc
      | none => removal.before := by
  unfold after taken Disk.unlink
  match removal.before.spot removal.path with
  | .error _ | .ok ⟨_, none, _⟩ => rfl
  | .ok ⟨dir, some leaf, true⟩ | .ok ⟨dir, some leaf, false⟩ =>
    simp only [bind, Except.bind]
    cases removal.before.node? (dir ++ [leaf]) with
    | none => rfl
    | some node => cases node <;> rfl

theorem taken_ne_root {removal : Removal} {loc : Location} (h : removal.taken = some loc) :
    loc ≠ [] := by
  unfold taken at h
  split at h
  · split at h <;> cases h
    simp
  · cases h

/-- A removal never makes a file, and it costs exactly those that it breaks. -/
theorem isFile_after_iff (removal : Removal) (path : String) :
    removal.after.isFile path = true ↔
      removal.before.isFile path = true ∧ ¬ removal.Breaks path := by
  rw [removal.after_eq]
  cases ht : removal.taken with
  | none =>
    refine ⟨fun h => ⟨h, ?_⟩, fun h => h.1⟩
    rintro ⟨_, loc, hloc, _⟩
    rw [ht] at hloc
    cases hloc
  | some loc =>
    simp only [Disk.isFile_erase (taken_ne_root ht)]
    refine and_congr_right fun hfile => not_congr ⟨fun hmem => ⟨hfile, loc, ht, hmem⟩, ?_⟩
    rintro ⟨_, other, hother, hmem⟩
    rw [ht] at hother
    cases hother
    exact hmem

theorem getLast?_of_taken {removal : Removal} {loc : Location} (h : removal.taken = some loc) :
    (∀ searchable, removal.before.node? loc ≠ some (.directory searchable)) ∧
      loc.getLast? = (Path.segments removal.path).getLast? := by
  unfold taken at h
  split at h
  · next dir leaf hspot =>
    rw [Disk.getLast?_of_spot hspot]
    split at h
    · cases h
    · cases h
    · next node hdir hnode =>
      cases h
      refine ⟨?_, List.getLast?_concat⟩
      rw [hnode]
      exact fun searchable heq => hdir searchable (Option.some.inj heq)
  · cases h

/-- Without links, a path is broken only by the removal of a path that ends in the same name. -/
theorem Breaks.getLast?_eq {removal : Removal} {path : String} (h : removal.Breaks path)
    (hplain : removal.before.Plain path) :
    (Path.segments removal.path).getLast? = (Path.segments path).getLast? := by
  obtain ⟨loc, htaken, hloc⟩ := h.taken
  obtain ⟨hnode, hlast⟩ := getLast?_of_taken htaken
  obtain ⟨_, _, hstat⟩ := Disk.isFile_iff.mp h.file
  obtain ⟨l, hl, _⟩ := Disk.stat_eq_ok_iff.mp hstat
  rw [← hlast]
  exact Disk.getLast?_of_mem_route (Disk.reaches_origin hplain.home path) (Disk.walk_of_locate hl)
    hplain.links hloc hnode

end Removal

end Crosscheck
