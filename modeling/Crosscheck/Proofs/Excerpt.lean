import Crosscheck.Proofs.Transcript
import Mathlib.Order.Bounds.Basic

/-! # What is shown of long diagnostics

The start of a text can always be cut off: looking back from any place, one comes to a place between
two characters, at the latest to the start of the text, and within the text after three bytes at
most. So what is shown is the longest part at the front that fits, and the report says how much is
left out.
-/

namespace Crosscheck

namespace Text

/-- A text is divided behind as many of its characters as `max` bytes can hold. -/
structure IsExcerpt (max : Nat) (text shown hidden : String) : Prop where
  whole : shown ++ hidden = text
  fits : shown.utf8ByteSize ≤ max
  longest : ∀ front back, front ++ back = text → front.utf8ByteSize ≤ max →
    front.utf8ByteSize ≤ shown.utf8ByteSize

/-! ## Looking for a place -/

theorem boundary?_zero (text : String) : boundary? text 0 = some 0 := by
  have hvalid : (String.Pos.Raw.mk 0).IsValid text := String.Pos.Raw.isValid_zero
  rw [boundary?, if_pos (String.Pos.Raw.isValid_eq_true_iff.mpr hvalid)]

/-- The search ends, and at the last place that there is. -/
theorem exists_boundary?_eq (text : String) (offset : Nat) :
    ∃ place, boundary? text offset = some place ∧
      IsGreatest {other | other ≤ offset ∧ (String.Pos.Raw.mk other).IsValid text} place := by
  induction offset with
  | zero =>
    refine ⟨0, boundary?_zero text, ⟨Nat.le_refl 0, String.Pos.Raw.isValid_zero⟩, ?_⟩
    intro other hother
    exact hother.1
  | succ offset ih =>
    by_cases hvalid : (String.Pos.Raw.mk (offset + 1)).IsValid text
    · refine ⟨offset + 1, ?_, ⟨Nat.le_refl _, hvalid⟩, ?_⟩
      · rw [boundary?, if_pos (String.Pos.Raw.isValid_eq_true_iff.mpr hvalid)]
      · intro other hother
        exact hother.1
    · obtain ⟨place, hplace, ⟨hle, hbetween⟩, hlast⟩ := ih
      refine ⟨place, ?_, ⟨by omega, hbetween⟩, ?_⟩
      · rw [boundary?, if_neg (mt String.Pos.Raw.isValid_eq_true_iff.mp hvalid), hplace]
      · rintro other ⟨hother, hbetween'⟩
        have hne : other ≠ offset + 1 := by
          rintro rfl
          exact hvalid hbetween'
        exact hlast ⟨by omega, hbetween'⟩

/-- At a place between two characters a text can be divided. -/
theorem exists_front?_eq {text : String} {offset : Nat}
    (h : (String.Pos.Raw.mk offset).IsValid text) :
    ∃ front back, front? text offset = some front ∧ front ++ back = text ∧
      front.utf8ByteSize = offset := by
  have hpos : text.pos? ⟨offset⟩ = some (text.pos ⟨offset⟩ h) := by
    simp [String.pos?, String.Slice.pos?, String.pos, h]
  refine ⟨(text.sliceTo (text.pos ⟨offset⟩ h)).copy, (text.sliceFrom (text.pos ⟨offset⟩ h)).copy,
    ?_, String.sliceTo_append_sliceFrom, ?_⟩
  · rw [front?, hpos, Option.map_some]
  · rw [String.Slice.utf8ByteSize_copy, String.utf8ByteSize_sliceTo, String.offset_pos]

theorem isValid_utf8ByteSize (front back : String) :
    (String.Pos.Raw.mk front.utf8ByteSize).IsValid (front ++ back) :=
  String.Pos.Raw.isValid_iff_exists_append.mpr ⟨front, back, rfl, rfl⟩

/-- A character takes at most four bytes, so there is a place close before every offset. -/
theorem exists_cut_near {text : String} {offset : Nat} (h : offset < text.utf8ByteSize) :
    ∃ front back, front ++ back = text ∧ front.utf8ByteSize ≤ offset ∧
      offset ≤ front.utf8ByteSize + 3 := by
  induction text using String.push_induction with
  | empty => simp at h
  | push text c ih =>
    by_cases hbefore : offset < text.utf8ByteSize
    · obtain ⟨front, back, rfl, hle, hnear⟩ := ih hbefore
      refine ⟨front, back ++ String.singleton c, ?_, hle, hnear⟩
      rw [← String.append_assoc, String.append_singleton]
    · have hsize : c.utf8Size ≤ 4 := Char.utf8Size_le_four c
      rw [String.utf8ByteSize_push] at h
      exact ⟨text, String.singleton c, String.append_singleton, by omega, by omega⟩

/-! ## The excerpt -/

section

variable {max : Nat} {text shown hidden : String}

theorem IsExcerpt.size_eq (h : IsExcerpt max text shown hidden) :
    text.utf8ByteSize = shown.utf8ByteSize + hidden.utf8ByteSize := by
  rw [← h.whole, String.utf8ByteSize_append]

theorem IsExcerpt.eq_text (h : IsExcerpt max text shown hidden) (hfits : text.utf8ByteSize ≤ max) :
    shown = text := by
  have hlongest := h.longest text "" String.append_empty hfits
  have hsize := h.size_eq
  have hhidden : hidden = "" := String.utf8ByteSize_eq_zero_iff.mp (by omega)
  rw [← h.whole, hhidden, String.append_empty]

theorem IsExcerpt.le_size_add_three (h : IsExcerpt max text shown hidden)
    (hlong : max < text.utf8ByteSize) : max ≤ shown.utf8ByteSize + 3 := by
  obtain ⟨front, back, hwhole, hle, hnear⟩ := exists_cut_near hlong
  have hlongest := h.longest front back hwhole hle
  omega

end

/-- Wherever the search starts, it leads to the excerpt, and there the text can be divided. -/
theorem exists_cut (max : Nat) (text : String) :
    ∃ shown hidden, boundary? text max = some shown.utf8ByteSize ∧
      front? text shown.utf8ByteSize = some shown ∧ IsExcerpt max text shown hidden := by
  obtain ⟨place, hplace, ⟨hle, hbetween⟩, hlast⟩ := exists_boundary?_eq text max
  obtain ⟨shown, hidden, hfront, hwhole, rfl⟩ := exists_front?_eq hbetween
  refine ⟨shown, hidden, hplace, hfront, hwhole, hle, ?_⟩
  rintro front back rfl hfits
  exact hlast ⟨hfits, isValid_utf8ByteSize front back⟩

theorem exists_excerpt?_eq (max : Nat) (text : String) :
    ∃ shown hidden, excerpt? max text = some shown ∧
      boundary? text max = some shown.utf8ByteSize ∧ IsExcerpt max text shown hidden := by
  obtain ⟨shown, hidden, hplace, hfront, h⟩ := exists_cut max text
  refine ⟨shown, hidden, ?_, hplace, h⟩
  unfold excerpt?
  split
  · next hfits => rw [h.eq_text hfits]
  · rw [hplace, Option.bind_some, hfront]

end Text

namespace Report

open Text

/-! ## The lines of the report -/

/-- The lines that are shown of the diagnostics of a process, and how many bytes are not. -/
def diagnosticLines (rows : List (List Char)) (hidden : String) : List (List Char) :=
  rows.map ("    | ".toList ++ ·) ++
    if hidden = "" then []
    else [("    | ... (" ++ toString hidden.utf8ByteSize ++ " more bytes)").toList]

theorem newline_notMem_diagnosticLines {rows : List (List Char)} (h : ∀ row ∈ rows, '\n' ∉ row)
    (hidden : String) : ∀ line ∈ diagnosticLines rows hidden, '\n' ∉ line := by
  intro line hline
  rcases List.mem_append.mp hline with hshown | hmore
  · obtain ⟨row, hrow, rfl⟩ := List.mem_map.mp hshown
    simp [h row hrow]
  · split at hmore
    · cases hmore
    · rw [List.mem_singleton.mp hmore]
      exact newline_notMem_moreBytes _

theorem toList_plain_stageFailure {failure : StageFailure} {shown hidden : String}
    (hne : failure.stderr ≠ [])
    (hshown : excerpt? stderrShown (String.ofList (Utf8.decodeLossy failure.stderr)) = some shown)
    (hwhole : shown ++ hidden = String.ofList (Utf8.decodeLossy failure.stderr)) :
    (plain (stageFailure failure)).toList =
      ("    " ++ failure.message).toList ++
        '\n' :: (diagnosticLines (lines shown.toList) hidden).flatMap (· ++ ['\n']) := by
  have hleft : (String.ofList (Utf8.decodeLossy failure.stderr)).utf8ByteSize -
      shown.utf8ByteSize = hidden.utf8ByteSize := by
    rw [← hwhole, String.utf8ByteSize_append, Nat.add_sub_cancel_left]
  rw [toList_plain]
  unfold stageFailure diagnosticLines
  simp only [if_neg hne, hshown, Option.getD_some, hleft, String.utf8ByteSize_eq_zero_iff]
  have hpaint : (Fragment.paint .dimmed).plain.toList = [] := rfl
  have hreset : Fragment.reset.plain.toList = [] := rfl
  by_cases hall : hidden = ""
  · simp [hall, hpaint, hreset, List.flatMap_map]
  · simp [hall, hpaint, hreset, List.flatMap_map]

/-- The start of a text can be cut off at any size: the search for the end of a character is never
led in front of the text and never into a character, and what it gives is the longest part that
fits, at most three bytes short. Of diagnostics the lines of their first 2048 bytes are reported,
and behind them how many bytes are left out, if any are. -/
theorem excerpt_is_longest_and_counted :
    (∀ (max : Nat) (text : String), ∃ shown hidden,
      excerpt? max text = some shown ∧ boundary? text max = some shown.utf8ByteSize ∧
      IsExcerpt max text shown hidden ∧ (text.utf8ByteSize ≤ max → shown = text) ∧
      (max < text.utf8ByteSize → max ≤ shown.utf8ByteSize + 3)) ∧
    ∀ failure : StageFailure, failure.stderr ≠ [] → ∃ shown hidden rows,
      excerpt? 2048 (String.ofList (Utf8.decodeLossy failure.stderr)) = some shown ∧
      IsExcerpt 2048 (String.ofList (Utf8.decodeLossy failure.stderr)) shown hidden ∧
      IsLines shown.toList rows ∧
      pieces (plain (stageFailure failure)).toList =
        pieces ("    " ++ failure.message).toList ++ diagnosticLines rows hidden ++ [[]] := by
  constructor
  · intro max text
    obtain ⟨shown, hidden, hshown, hplace, h⟩ := exists_excerpt?_eq max text
    exact ⟨shown, hidden, hshown, hplace, h, h.eq_text, h.le_size_add_three⟩
  · intro failure hne
    obtain ⟨shown, hidden, hshown, -, h⟩ :=
      exists_excerpt?_eq stderrShown (String.ofList (Utf8.decodeLossy failure.stderr))
    have hplain : ∀ line ∈ diagnosticLines (lines shown.toList) hidden, '\n' ∉ line :=
      newline_notMem_diagnosticLines (fun _ => notMem_of_mem_lines) hidden
    refine ⟨shown, hidden, lines shown.toList, hshown, h, isLines_lines _, ?_⟩
    rw [toList_plain_stageFailure hne hshown h.whole, pieces_append_line,
      pieces_flatMap_line hplain, List.append_assoc]

/-- Diagnostics that are no text at all: every byte is shown as a replacement, which takes three. -/
def garbledFailure : StageFailure :=
  ⟨.process .compile, "cc b", .exited 1, List.replicate 683 0xFF, none⟩

theorem units_garbled (n : Nat) :
    Utf8.units none (List.replicate n 0xFF) = List.replicate n none := by
  induction n with
  | zero => rfl
  | succ n ih =>
    rw [List.replicate_succ, List.replicate_succ, ← ih]
    rfl

theorem size_of_replicate {text : String} {n : Nat} {c : Char}
    (h : text.toList = List.replicate n c) : text.utf8ByteSize = n * c.utf8Size := by
  obtain rfl : text = String.ofList (List.replicate n c) := by rw [← h, String.ofList_toList]
  clear h
  induction n with
  | zero => simp
  | succ n ih =>
    rw [List.replicate_succ', String.ofList_append, String.utf8ByteSize_append, ih,
      ← String.singleton_eq_ofList, String.utf8ByteSize_singleton, Nat.succ_mul]

/-- The place after 2048 bytes is inside the last of 683 replacements, so that one is left out. -/
theorem garbledFailure_leaves_out_three_bytes :
    garbledFailure.stderr ≠ [] ∧ IsExcerpt 2 "añb" "a" "ñb" ∧
    ∃ rows, IsLines (List.replicate 682 Utf8.replacement) rows ∧
      pieces (plain (stageFailure garbledFailure)).toList =
        pieces ("    " ++ garbledFailure.message).toList ++ rows.map ("    | ".toList ++ ·) ++
          ["    | ... (3 more bytes)".toList] ++ [[]] := by
  obtain ⟨hexcerpt, hreport⟩ := excerpt_is_longest_and_counted
  have hne : garbledFailure.stderr ≠ [] := List.cons_ne_nil 0xFF (List.replicate 682 0xFF)
  refine ⟨hne, ?_, ?_⟩
  · obtain ⟨shown, hidden, hshown, -, h, -, -⟩ := hexcerpt 2 "añb"
    have ha : excerpt? 2 "añb" = some "a" := by decide
    obtain rfl : "a" = shown := Option.some.inj (ha.symm.trans hshown)
    obtain rfl : hidden = "ñb" := (String.append_right_inj "a").mp h.whole
    exact h
  · obtain ⟨shown, hidden, rows, -, h, hrows, hpieces⟩ := hreport garbledFailure hne
    have htext : Utf8.decodeLossy garbledFailure.stderr = List.replicate 683 Utf8.replacement := by
      unfold Utf8.decodeLossy garbledFailure
      rw [units_garbled, List.map_replicate]
      rfl
    rw [htext] at h
    have hwhole : shown.toList ++ hidden.toList = List.replicate 683 Utf8.replacement := by
      rw [← String.toList_append, h.whole, String.toList_ofList]
    obtain ⟨hcount, hshown, hhidden⟩ := List.append_eq_replicate_iff.mp hwhole
    have hshownSize := size_of_replicate hshown
    have hhiddenSize := size_of_replicate hhidden
    have hfits := h.fits
    -- All but one of the replacements would fit, and no more do.
    have hlongest := h.longest (String.ofList (List.replicate 682 Utf8.replacement))
      (String.ofList (List.replicate 1 Utf8.replacement))
      (by rw [← String.ofList_append, List.replicate_append_replicate])
    rw [size_of_replicate String.toList_ofList] at hlongest
    have hthree : Utf8.replacement.utf8Size = 3 := by decide
    rw [hthree] at hshownSize hhiddenSize hlongest
    have hmost : shown.toList.length = 682 := by omega
    rw [hshown, hmost] at hrows
    have hleft : hidden.utf8ByteSize = 3 := by omega
    have hsome : hidden ≠ "" := by
      rintro rfl
      cases hleft
    refine ⟨rows, hrows, ?_⟩
    rw [hpieces, diagnosticLines, if_neg hsome, hleft, ← List.append_assoc]
    rfl

end Report

end Crosscheck
