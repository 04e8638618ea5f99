import Crosscheck.Proofs.Path
import Mathlib.Data.List.Basic

/-! # File names

A file name is cut at its last dot, so a stem and an extension are those of a name exactly if the
extension has no dot. A name without slashes is one segment of a path, and what is put behind it
belongs to this segment up to the first slash.
-/

namespace Crosscheck.Path

/-! ## The last dot -/

theorem takeWhile_reverse_lastDot {stem ext : List Char} (h : '.' ∉ ext) :
    ((stem ++ '.' :: ext).reverse.takeWhile (· != '.')).reverse = ext := by
  have hext : ∀ c ∈ ext.reverse, (c != '.') = true := by
    intro c hc
    rw [List.mem_reverse] at hc
    have hne : c ≠ '.' := fun heq => h (heq ▸ hc)
    simpa using hne
  have hreverse : (stem ++ '.' :: ext).reverse = ext.reverse ++ '.' :: stem.reverse := by simp
  rw [hreverse, List.takeWhile_append_of_pos hext]
  simp

theorem exists_lastDot {cs : List Char} (h : '.' ∈ cs) :
    ∃ stem ext, cs = stem ++ '.' :: ext ∧ '.' ∉ ext := by
  obtain ⟨ext, stem, hcs, hext⟩ := List.eq_append_cons_of_mem (List.mem_reverse.mpr h)
  refine ⟨stem.reverse, ext.reverse, ?_, by simpa using hext⟩
  have hreverse := congrArg List.reverse hcs
  simpa using hreverse

theorem splitExtension_eq_of_lastDot {name : String} {stem ext : List Char}
    (hname : name.toList = stem ++ '.' :: ext) (hext : '.' ∉ ext) :
    splitExtension name =
      if name = ".." ∨ stem = [] then (name, none)
      else (String.ofList stem, some (String.ofList ext)) := by
  have hlength : (stem ++ '.' :: ext).length - ext.length - 1 = stem.length := by
    simp only [List.length_append, List.length_cons]
    omega
  have hdot : (stem ++ '.' :: ext).contains '.' = true := by simp
  unfold splitExtension
  simp only [hname, takeWhile_reverse_lastDot hext, hlength, List.take_left', hdot, not_true,
    false_or, List.isEmpty_iff]

/-- The stem and the extension of a name, which is none of `.` and `..`. -/
theorem splitExtension_eq_some_iff {name stem ext : String} :
    splitExtension name = (stem, some ext) ↔
      name = stem ++ "." ++ ext ∧ '.' ∉ ext.toList ∧ stem ≠ "" ∧ name ≠ ".." := by
  constructor
  · intro h
    have hdot : '.' ∈ name.toList := by
      by_contra hnone
      simp [splitExtension, hnone] at h
    obtain ⟨front, back, hname, hback⟩ := exists_lastDot hdot
    rw [splitExtension_eq_of_lastDot hname hback] at h
    split at h
    · cases h
    · next hcut =>
      rw [not_or] at hcut
      cases h
      refine ⟨String.toList_inj.mp (by simp [hname]), by simpa using hback, ?_, hcut.1⟩
      simpa [← String.toList_inj] using hcut.2
  · rintro ⟨rfl, hext, hstem, hdots⟩
    have hname : (stem ++ "." ++ ext).toList = stem.toList ++ '.' :: ext.toList := by simp
    have hfront : stem.toList ≠ [] := by simpa using hstem
    rw [splitExtension_eq_of_lastDot hname hext, if_neg (by simp [hdots, hfront])]
    simp

/-! ## One segment -/

theorem segments_append_of_notMem {name : String} (h : '/' ∉ name.toList) (rest : String) :
    ∃ first more, segments rest = first :: more ∧
      segments (name ++ rest) = (name ++ first) :: more := by
  obtain ⟨first, more, hrest⟩ := List.exists_cons_of_ne_nil (List.splitOn_ne_nil '/' rest.toList)
  refine ⟨String.ofList first, more.map String.ofList, by simp [segments, hrest], ?_⟩
  have hsplit : ∀ cs : List Char, '/' ∉ cs →
      (cs ++ rest.toList).splitOn '/' = (cs ++ first) :: more := by
    intro cs hcs
    induction cs with
    | nil => exact hrest
    | cons c cs ih =>
      rw [List.mem_cons, not_or] at hcs
      have hc : (c == '/') = false := by simpa using Ne.symm hcs.1
      rw [List.cons_append, List.splitOn_cons_eq_if_modifyHead, hc, ih hcs.2]
      rfl
  unfold segments
  rw [String.toList_append, hsplit name.toList h, List.map_cons, List.cons.injEq]
  exact ⟨String.toList_inj.mp (by simp), rfl⟩

theorem isAbsolute_append_of_notMem {name : String} (hname : name ≠ "") (h : '/' ∉ name.toList)
    (rest : String) : isAbsolute (name ++ rest) = false := by
  obtain ⟨c, cs, hchars⟩ := List.exists_cons_of_ne_nil (l := name.toList) (by simpa using hname)
  rw [hchars, List.mem_cons, not_or] at h
  simpa [isAbsolute, hchars] using Ne.symm h.1

theorem head?_steps (path : String) {first : String} (hfirst : (segments path).head? = some first)
    (hempty : first ≠ "") (hdot : first ≠ ".") :
    (steps path).head?.map Component.text = some first := by
  obtain ⟨more, hsegments⟩ := List.head?_eq_some_iff.mp hfirst
  obtain ⟨step, hstep, htext⟩ := Option.map_eq_some_iff.mp (ofSegment?_text hempty hdot)
  unfold steps
  rw [hsegments, List.filterMap_cons, hstep]
  simpa using htext

theorem head?_steps_append_dot {name first rest : String} {more : List String} (hname : name ≠ "")
    (hslash : '/' ∉ name.toList) (hrest : segments ("." ++ rest) = ("." ++ first) :: more) :
    (steps (name ++ "." ++ rest)).head?.map Component.text = some (name ++ ("." ++ first)) := by
  obtain ⟨second, others, hsecond, hwhole⟩ := segments_append_of_notMem hslash ("." ++ rest)
  obtain ⟨rfl, rfl⟩ := List.cons.inj (hrest.symm.trans hsecond)
  -- With a dot behind a name, the segment is neither empty nor a dot alone.
  have hone : ".".length = 1 := rfl
  have hlength : (name ++ ("." ++ first)).length = name.length + (1 + first.length) := by
    rw [String.length_append, String.length_append, hone]
  have hpos : 0 < name.length := by simpa [Nat.pos_iff_ne_zero] using hname
  rw [String.append_assoc]
  apply head?_steps
  · rw [hwhole, List.head?_cons]
  · intro hempty
    rw [hempty, String.length_empty] at hlength
    omega
  · intro hdot
    rw [hdot] at hlength
    omega

/-- A name before a dot can be read off the steps, whatever is behind the dot. -/
theorem eq_of_steps_append_dot_eq {a b rest : String} (ha : a ≠ "") (hb : b ≠ "")
    (haslash : '/' ∉ a.toList) (hbslash : '/' ∉ b.toList)
    (h : steps (a ++ "." ++ rest) = steps (b ++ "." ++ rest)) : a = b := by
  have hdot : '/' ∉ ".".toList := by decide
  obtain ⟨first, more, -, hdotted⟩ := segments_append_of_notMem hdot rest
  have hheada := head?_steps_append_dot ha haslash hdotted
  have hheadb := head?_steps_append_dot hb hbslash hdotted
  rw [h, hheadb] at hheada
  exact ((String.append_left_inj _).mp (Option.some.inj hheada)).symm

theorem steps_eq_nil_iff_of_notMem {name : String} (hname : name ≠ "")
    (hslash : '/' ∉ name.toList) : steps name = [] ↔ name = "." := by
  unfold steps Component.ofSegment?
  rw [segments_of_notMem hslash]
  by_cases hdot : name = "."
  · simp [hdot]
  · by_cases hup : name = ".."
    · simp [hup]
    · simp [hname, hdot, hup]

theorem eq_of_steps_eq_of_notMem {a b : String} (ha : a ≠ "") (hb : b ≠ "")
    (haslash : '/' ∉ a.toList) (hbslash : '/' ∉ b.toList) (h : steps a = steps b) : a = b := by
  have hnila := steps_eq_nil_iff_of_notMem ha haslash
  have hnilb := steps_eq_nil_iff_of_notMem hb hbslash
  rw [h] at hnila
  by_cases hdot : a = "."
  · rw [hdot, hnilb.mp (hnila.mpr hdot)]
  · have hdot' : b ≠ "." := fun heq => hdot (hnila.mp (hnilb.mpr heq))
    have hheada := head?_steps a (by rw [segments_of_notMem haslash, List.head?_cons]) ha hdot
    have hheadb := head?_steps b (by rw [segments_of_notMem hbslash, List.head?_cons]) hb hdot'
    rw [h, hheadb] at hheada
    exact (Option.some.inj hheada).symm

end Crosscheck.Path
