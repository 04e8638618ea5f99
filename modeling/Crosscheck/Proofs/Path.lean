import Crosscheck.Path
import Mathlib.Data.List.Basic

/-! # What a path says

The components of a path are its start, which is the root, a dot or nothing, and the steps that its
segments make from there; both can be read off the components again. Joining puts the steps of the
second path behind those of the first and keeps the start of the first. A direct path says what the
path itself says, but for the dot in front of a lone name; so it has a slash, unless it is one of
the few paths that name no file.
-/

namespace Crosscheck.Path

/-! ## Segments -/

theorem segments_ne_nil (path : String) : segments path ≠ [] := by
  simp [segments, List.splitOn_ne_nil]

theorem segments_append_slash (a b : String) :
    segments (a ++ "/" ++ b) = segments a ++ segments b := by
  have hslash : (a ++ "/" ++ b).toList = a.toList ++ '/' :: b.toList := by simp
  unfold segments
  rw [hslash, List.splitOn_append_cons_self, List.map_append]

theorem segments_of_notMem {name : String} (h : '/' ∉ name.toList) : segments name = [name] := by
  unfold segments
  rw [List.splitOn_eq_singleton h, List.map_singleton, String.ofList_toList]

theorem eq_of_segments_eq {a b : String} (h : segments a = segments b) : a = b := by
  have hsplit : a.toList.splitOn '/' = b.toList.splitOn '/' :=
    (List.map_inj_right fun _ _ => String.ofList_inj.mp).mp h
  apply String.toList_inj.mp
  calc a.toList = ['/'].intercalate (a.toList.splitOn '/') := (List.intercalate_splitOn '/').symm
    _ = ['/'].intercalate (b.toList.splitOn '/') := by rw [hsplit]
    _ = b.toList := List.intercalate_splitOn '/'

theorem exists_of_isAbsolute {path : String} (h : isAbsolute path = true) :
    ∃ rest, path = "/" ++ rest := by
  have hhead : path.toList.head? = some '/' := by simpa [isAbsolute] using h
  obtain ⟨rest, hrest⟩ := List.head?_eq_some_iff.mp hhead
  refine ⟨String.ofList rest, String.toList_inj.mp ?_⟩
  simp [hrest]

theorem isAbsolute_of_notMem {name : String} (h : '/' ∉ name.toList) : isAbsolute name = false := by
  rw [← Bool.not_eq_true]
  intro habsolute
  obtain ⟨rest, rfl⟩ := exists_of_isAbsolute habsolute
  simp at h

theorem head?_segments_of_isAbsolute {path : String} (h : isAbsolute path = true) :
    (segments path).head? = some "" := by
  obtain ⟨rest, rfl⟩ := exists_of_isAbsolute h
  have hfirst := segments_append_slash "" rest
  rw [String.empty_append] at hfirst
  rw [hfirst]
  rfl

theorem isAbsolute_of_head?_segments {path : String} (hpath : path ≠ "")
    (h : (segments path).head? = some "") : isAbsolute path = true := by
  have hjoin : path.toList = ['/'].intercalate (path.toList.splitOn '/') :=
    (List.intercalate_splitOn '/').symm
  unfold segments at h
  cases hsplit : path.toList.splitOn '/' with
  | nil => exact absurd hsplit (List.splitOn_ne_nil _ _)
  | cons first rest =>
    rw [hsplit] at h hjoin
    have hfirst : first = [] := by simpa using h
    subst hfirst
    cases rest with
    | nil => exact absurd (String.toList_eq_nil_iff.mp hjoin) hpath
    | cons _ _ =>
      unfold isAbsolute
      rw [hjoin]
      simp [List.intercalate]

/-! ## Start and steps -/

/-- Where a path starts from: the root, or a dot that it is written with. -/
def start (path : String) : Option Component :=
  if isAbsolute path then some .root
  else if (segments path).head? = some "." then some .here
  else none

/-- The steps of all segments. A dot makes none, be it the first. -/
def steps (path : String) : List Component :=
  (segments path).filterMap Component.ofSegment?

@[simp] theorem steps_empty : steps "" = [] := rfl

theorem components_eq (path : String) : components path = (start path).toList ++ steps path := by
  unfold components start steps
  cases hs : segments path with
  | nil => exact absurd hs (segments_ne_nil path)
  | cons first rest =>
    simp only [List.head?_cons, Option.some.injEq]
    by_cases ha : isAbsolute path = true
    · have hfirst := head?_segments_of_isAbsolute ha
      rw [hs, List.head?_cons, Option.some.injEq] at hfirst
      simp [ha, hfirst, Component.ofSegment?]
    · by_cases hd : first = "."
      · simp [ha, hd, Component.ofSegment?]
      · simp only [ha, hd, if_false, Bool.false_eq_true, Option.toList_none, List.nil_append]
        cases hf : Component.ofSegment? first with
        | none => simp [hf]
        | some step => simp [hf]

/-- Steps go up or to a name. -/
theorem of_mem_steps {path : String} {step : Component} (h : step ∈ steps path) :
    step = .parent ∨ ∃ text, step = .name text := by
  obtain ⟨segment, -, hs⟩ := List.mem_filterMap.mp h
  unfold Component.ofSegment? at hs
  split at hs
  · cases hs
  · split at hs
    · exact .inl (Option.some.inj hs).symm
    · exact .inr ⟨segment, (Option.some.inj hs).symm⟩

/-- The step of a segment that is more than a dot has the text of the segment. -/
theorem ofSegment?_text {segment : String} (hempty : segment ≠ "") (hdot : segment ≠ ".") :
    (Component.ofSegment? segment).map Component.text = some segment := by
  unfold Component.ofSegment?
  rw [if_neg (by simp [hempty, hdot])]
  split
  · next hup => rw [hup]; rfl
  · rfl

theorem of_start_eq_some {path : String} {first : Component} (h : start path = some first) :
    first = .root ∨ first = .here := by
  unfold start at h
  split at h
  · exact .inl (Option.some.inj h).symm
  · split at h
    · exact .inr (Option.some.inj h).symm
    · cases h

/-- What a path starts from is never one of the steps of a path. -/
theorem notMem_steps_of_start {a b : String} {first : Component} (h : start a = some first) :
    first ∉ steps b := by
  intro hmem
  rcases of_start_eq_some h with rfl | rfl <;> simpa using of_mem_steps hmem

theorem components_eq_iff (a b : String) :
    components a = components b ↔ start a = start b ∧ steps a = steps b := by
  rw [components_eq, components_eq]
  constructor
  · intro h
    -- Two starts or none can be compared; a start alone would be a step of the other path.
    cases ha : start a with
    | none =>
      cases hb : start b with
      | none => simpa [ha, hb] using h
      | some step =>
        rw [ha, hb, Option.toList_none, Option.toList_some, List.nil_append] at h
        have hmem : step ∈ steps a := by rw [h]; exact List.mem_cons_self
        exact absurd hmem (notMem_steps_of_start hb)
    | some step =>
      cases hb : start b with
      | none =>
        rw [ha, hb, Option.toList_none, Option.toList_some, List.nil_append] at h
        have hmem : step ∈ steps b := by rw [← h]; exact List.mem_cons_self
        exact absurd hmem (notMem_steps_of_start ha)
      | some step' => simpa [ha, hb] using h
  · rintro ⟨hstart, hsteps⟩
    rw [hstart, hsteps]

theorem start_eq_root_iff (path : String) : start path = some .root ↔ isAbsolute path = true := by
  unfold start
  cases isAbsolute path with
  | true => simp
  | false => simp

theorem isAbsolute_of_start_eq_none {path : String} (h : start path = none) :
    isAbsolute path = false := by
  rw [← Bool.not_eq_true, ← start_eq_root_iff, h]
  simp

/-! ## Joining -/

@[simp] theorem join_of_isAbsolute (base : String) {path : String} (h : isAbsolute path = true) :
    join base path = path := by
  simp [join, h]

@[simp] theorem empty_join (path : String) : join "" path = path := by
  simp [join]

/-- The segments of a path below a base, with those of the base, which may end in a slash of its
own. -/
theorem segments_join (base : String) {path : String} (hbase : base ≠ "")
    (hpath : isAbsolute path = false) :
    ∃ above, above ≠ [] ∧ segments (join base path) = above ++ segments path ∧
      (segments base = above ∨ segments base = above ++ [""]) := by
  have hempty : base.isEmpty = false := by simpa using hbase
  unfold join
  rw [hpath, hempty]
  simp only [Bool.false_eq_true, if_false]
  split
  · next hlast =>
    obtain ⟨front, hfront⟩ := List.getLast?_eq_some_iff.mp hlast
    have hslash : base = String.ofList front ++ "/" := String.toList_inj.mp (by simp [hfront])
    have hown : segments base = segments (String.ofList front) ++ segments "" := by
      rw [← segments_append_slash, String.append_empty, ← hslash]
    refine ⟨segments (String.ofList front), segments_ne_nil _, ?_, .inr hown⟩
    rw [hslash, segments_append_slash]
  · exact ⟨segments base, segments_ne_nil base, segments_append_slash base path, .inl rfl⟩

theorem steps_join (base : String) {path : String} (h : isAbsolute path = false) :
    steps (join base path) = steps base ++ steps path := by
  by_cases hbase : base = ""
  · simp [hbase]
  · obtain ⟨above, -, hjoin, habove⟩ := segments_join base hbase h
    have hsteps : steps base = above.filterMap Component.ofSegment? := by
      unfold steps
      rcases habove with heq | heq
      · rw [heq]
      · simp [heq, Component.ofSegment?]
    rw [hsteps]
    unfold steps
    rw [hjoin, List.filterMap_append]

theorem isAbsolute_join (base : String) {path : String} (h : isAbsolute path = false) :
    isAbsolute (join base path) = isAbsolute base := by
  by_cases hbase : base = ""
  · rw [hbase, empty_join, h]
    rfl
  · have hempty : base.isEmpty = false := by simpa using hbase
    obtain ⟨first, rest, hchars⟩ := List.exists_cons_of_ne_nil (l := base.toList) (by simpa using hbase)
    unfold join
    rw [h, hempty]
    simp only [Bool.false_eq_true, if_false]
    split <;> simp [isAbsolute, hchars]

theorem start_join (base : String) {path : String} (hbase : base ≠ "")
    (hpath : isAbsolute path = false) : start (join base path) = start base := by
  obtain ⟨above, hne, hjoin, habove⟩ := segments_join base hbase hpath
  obtain ⟨first, rest, rfl⟩ := List.exists_cons_of_ne_nil hne
  have hhead : (segments (join base path)).head? = (segments base).head? := by
    rcases habove with heq | heq
    · simp [hjoin, heq]
    · simp [hjoin, heq]
  unfold start
  rw [isAbsolute_join base hpath, hhead]

theorem mem_join {base path : String} {c : Char} (h : c ∈ (join base path).toList) :
    c ∈ base.toList ∨ c = '/' ∨ c ∈ path.toList := by
  unfold join at h
  split at h
  · exact .inr (.inr h)
  split at h
  · exact .inr (.inr h)
  split at h
  · simp only [String.toList_append, List.mem_append] at h
    exact h.imp_right .inr
  · simpa [or_assoc] using h

theorem size_le_size_join (base : String) {path : String} (h : isAbsolute path = false) :
    base.utf8ByteSize + path.utf8ByteSize ≤ (join base path).utf8ByteSize := by
  unfold join
  rw [h, if_neg Bool.false_ne_true]
  split
  · next hempty =>
    rw [String.isEmpty_iff.mp hempty, String.utf8ByteSize_empty]
    omega
  split
  · exact Nat.le_of_eq (String.utf8ByteSize_append).symm
  · rw [String.utf8ByteSize_append, String.utf8ByteSize_append]
    omega

/-! ## Direct paths -/

/-- The steps are those of a single file name. -/
def isLone : List Component → Bool
  | [.name _] => true
  | _ => false

theorem isLone_iff {steps : List Component} : isLone steps = true ↔ ∃ text, steps = [.name text] := by
  unfold isLone
  split
  · next text => simp
  · next h => simpa using h

theorem components_eq_name_iff {path text : String} :
    components path = [.name text] ↔ start path = none ∧ steps path = [.name text] := by
  rw [components_eq]
  cases hs : start path with
  | none => simp
  | some step =>
    have hname : step ≠ .name text := by
      rcases of_start_eq_some hs with rfl | rfl <;> simp
    simp [hname]

theorem direct_eq (path : String) :
    direct path = if start path = none ∧ isLone (steps path) then join "." path else path := by
  unfold direct
  split
  · next text h =>
    obtain ⟨hstart, hsteps⟩ := components_eq_name_iff.mp h
    rw [if_pos ⟨hstart, isLone_iff.mpr ⟨text, hsteps⟩⟩]
  · next h =>
    rw [if_neg]
    rintro ⟨hstart, hlone⟩
    obtain ⟨text, hsteps⟩ := isLone_iff.mp hlone
    exact h text (components_eq_name_iff.mpr ⟨hstart, hsteps⟩)

theorem steps_direct (path : String) : steps (direct path) = steps path := by
  rw [direct_eq]
  split
  · next h =>
    rw [steps_join "." (isAbsolute_of_start_eq_none h.1)]
    rfl
  · rfl

/-- A direct path starts from a dot if it is relative and has a single name. -/
theorem start_direct (path : String) :
    start (direct path) =
      if isAbsolute path = false ∧ isLone (steps path) then some .here else start path := by
  rw [direct_eq]
  cases ha : isAbsolute path with
  | true =>
    have hstart : start path = some .root := (start_eq_root_iff path).mpr ha
    simp [hstart]
  | false =>
    cases hlone : isLone (steps path) with
    | false => simp
    | true =>
      -- A relative path that does not start from nothing has its dot already.
      have hstart : start path = none ∨ start path = some .here := by
        unfold start
        rw [ha]
        simp only [Bool.false_eq_true, if_false]
        split
        · exact .inr rfl
        · exact .inl rfl
      rcases hstart with hstart | hstart
      · simp only [hstart, and_self, if_true]
        exact start_join "." (by decide) ha
      · simp [hstart]

theorem components_direct_eq_iff (a b : String) :
    components (direct a) = components (direct b) ↔
      steps a = steps b ∧
        (start a = start b ∨
          isLone (steps a) = true ∧ isAbsolute a = false ∧ isAbsolute b = false) := by
  rw [components_eq_iff, steps_direct, steps_direct, start_direct, start_direct, and_comm]
  apply and_congr_right
  intro hsteps
  rw [← hsteps]
  cases isLone (steps a) with
  | false => simp
  | true =>
    have hroota := start_eq_root_iff a
    have hrootb := start_eq_root_iff b
    cases ha : isAbsolute a with
    | true =>
      rw [hroota.mpr ha]
      cases hb : isAbsolute b with
      | true => simp
      | false =>
        rw [hb] at hrootb
        simpa using fun h => absurd (hrootb.mp h.symm) Bool.false_ne_true
    | false =>
      cases hb : isAbsolute b with
      | true =>
        rw [ha] at hroota
        rw [hrootb.mpr hb]
        simpa using fun h => absurd (hroota.mp h) Bool.false_ne_true
      | false => simp

theorem direct_of_isLone {path : String} (h : isLone (components path) = true) :
    direct path = join "." path := by
  obtain ⟨text, htext⟩ := isLone_iff.mp h
  simp [direct, htext]

theorem direct_of_not_isLone {path : String} (h : isLone (components path) = false) :
    direct path = path := by
  unfold direct
  split
  · next text htext =>
    rw [htext] at h
    cases h
  · rfl

/-- A dot comes in front of a lone name, and that is all. -/
theorem components_direct (path : String) :
    components (direct path) =
      if isLone (components path) then .here :: components path else components path := by
  cases h : isLone (components path) with
  | true =>
    obtain ⟨text, htext⟩ := isLone_iff.mp h
    obtain ⟨hstart, hsteps⟩ := components_eq_name_iff.mp htext
    have hrel : isAbsolute path = false := isAbsolute_of_start_eq_none hstart
    have hdot : start (join "." path) = some .here := start_join "." (by decide) hrel
    rw [direct_of_isLone h, components_eq, hdot, steps_join "." hrel, htext, hsteps]
    rfl
  | false => simp [direct_of_not_isLone h]

theorem direct_direct (path : String) : direct (direct path) = direct path := by
  apply direct_of_not_isLone
  rw [components_direct]
  cases h : isLone (components path) with
  | true => rfl
  | false => simpa using h

theorem isLone_components_of_notMem {name : String} (h : '/' ∉ name.toList) (hempty : name ≠ "")
    (hdot : name ≠ ".") (hdots : name ≠ "..") : isLone (components name) = true := by
  have hrel : isAbsolute name = false := isAbsolute_of_notMem h
  simp [components, segments_of_notMem h, hrel, hempty, hdot, hdots, Component.ofSegment?, isLone]

/-- A direct path is never searched for: it has a slash, unless it leads nowhere or up. -/
theorem slash_mem_direct {path : String} (hempty : path ≠ "") (hdot : path ≠ ".")
    (hdots : path ≠ "..") : '/' ∈ (direct path).toList := by
  cases h : isLone (components path) with
  | true =>
    obtain ⟨text, htext⟩ := isLone_iff.mp h
    have hrel : isAbsolute path = false :=
      isAbsolute_of_start_eq_none (components_eq_name_iff.mp htext).1
    rw [direct_of_isLone h]
    simp [join, hrel]
  | false =>
    rw [direct_of_not_isLone h]
    by_contra hslash
    rw [isLone_components_of_notMem hslash hempty hdot hdots] at h
    cases h

/-! ## Tidy paths -/

/-- Every segment makes a step: none is empty, and none is a dot. -/
def Tidy (path : String) : Prop :=
  ∀ segment ∈ segments path, segment ≠ "" ∧ segment ≠ "."

instance (path : String) : Decidable (Tidy path) :=
  inferInstanceAs (Decidable (∀ segment ∈ segments path, segment ≠ "" ∧ segment ≠ "."))

theorem Tidy.isAbsolute_eq {path : String} (h : Tidy path) : isAbsolute path = false := by
  rw [← Bool.not_eq_true]
  intro ha
  exact (h "" (List.mem_of_mem_head? (head?_segments_of_isAbsolute ha))).1 rfl

theorem Tidy.map_text_steps {path : String} (h : Tidy path) :
    (steps path).map Component.text = segments path := by
  have hone : ∀ segment ∈ segments path,
      (Component.ofSegment? segment).map Component.text = some segment :=
    fun segment hmem => ofSegment?_text (h segment hmem).1 (h segment hmem).2
  unfold steps
  rw [List.map_filterMap, List.filterMap_congr hone]
  exact List.filterMap_some

/-- A tidy path is the only tidy one with its steps. -/
theorem Tidy.eq_of_steps_eq {a b : String} (ha : Tidy a) (hb : Tidy b) (h : steps a = steps b) :
    a = b := by
  apply eq_of_segments_eq
  rw [← ha.map_text_steps, ← hb.map_text_steps, h]

end Crosscheck.Path
