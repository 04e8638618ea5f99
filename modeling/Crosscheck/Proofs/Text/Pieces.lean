import Crosscheck.Text.Lines

/-! # Cutting a text at its newlines

Cutting and joining undo each other, as long as there is something to join and the parts have no
newlines of their own. A text that is written line by line is cut into its lines and an empty end.
Neither a piece nor a line has a newline in it. Where the lines of a text end, and that nothing else
of it is left out, is said by `IsLines`.
-/

namespace Crosscheck.Text

theorem pieces_ne_nil (text : List Char) : pieces text ≠ [] :=
  List.splitOn_ne_nil '\n' text

theorem joinPieces_pieces (text : List Char) : joinPieces (pieces text) = text :=
  List.intercalate_splitOn '\n'

theorem pieces_joinPieces {parts : List (List Char)} (hne : parts ≠ [])
    (h : ∀ part ∈ parts, '\n' ∉ part) : pieces (joinPieces parts) = parts :=
  List.splitOn_intercalate '\n' h hne

theorem notMem_of_mem_pieces {text piece : List Char} (h : piece ∈ pieces text) : '\n' ∉ piece := by
  unfold pieces at h
  induction text generalizing piece with
  | nil =>
    rw [List.splitOn_nil, List.mem_singleton] at h
    simp [h]
  | cons c text ih =>
    rw [List.splitOn_cons_eq_if_modifyHead] at h
    split at h
    · rcases List.mem_cons.mp h with rfl | h
      · simp
      · exact ih h
    · next hc =>
      -- The character goes to the front of the first piece of the rest.
      obtain ⟨first, more, hrest⟩ := List.exists_cons_of_ne_nil (List.splitOn_ne_nil '\n' text)
      rw [hrest, List.modifyHead_cons] at h
      rcases List.mem_cons.mp h with rfl | h
      · have hfirst : '\n' ∉ first := ih (by rw [hrest]; exact List.mem_cons_self)
        have hne : '\n' ≠ c := fun heq => hc (beq_iff_eq.mpr heq.symm)
        simp [hfirst, hne]
      · exact ih (by rw [hrest]; exact List.mem_cons_of_mem _ h)

theorem pieces_append_line (text rest : List Char) :
    pieces (text ++ '\n' :: rest) = pieces text ++ pieces rest :=
  List.splitOn_append_cons_self text rest

theorem pieces_line {line : List Char} (h : '\n' ∉ line) (rest : List Char) :
    pieces (line ++ '\n' :: rest) = line :: pieces rest :=
  List.splitOn_append_cons_self_of_not_mem h rest

theorem pieces_flatMap_line {lines : List (List Char)} (h : ∀ line ∈ lines, '\n' ∉ line) :
    pieces (lines.flatMap (· ++ ['\n'])) = lines ++ [[]] := by
  induction lines with
  | nil => rfl
  | cons line lines ih =>
    have hline : '\n' ∉ line := h line List.mem_cons_self
    have hrest : pieces (lines.flatMap (· ++ ['\n'])) = lines ++ [[]] :=
      ih fun other hmem => h other (List.mem_cons_of_mem _ hmem)
    rw [List.flatMap_cons, List.append_assoc, List.singleton_append, pieces_line hline, hrest,
      List.cons_append]

/-! ## Lines -/

/-- The lines of a text, taken off its front one by one. A line is closed by a newline or by a
carriage return and a newline; only the last may be left open, unless it is empty. -/
inductive IsLines : List Char → List (List Char) → Prop
  | none : IsLines [] []
  | unclosed {line : List Char} (hne : line ≠ []) (hplain : '\n' ∉ line) : IsLines line [line]
  | closed {line rest : List Char} {more : List (List Char)} (hplain : '\n' ∉ line)
      (hreturn : line.getLast? ≠ some '\r') (hrest : IsLines rest more) :
      IsLines (line ++ '\n' :: rest) (line :: more)
  | returned {line rest : List Char} {more : List (List Char)} (hplain : '\n' ∉ line)
      (hrest : IsLines rest more) : IsLines (line ++ '\r' :: '\n' :: rest) (line :: more)

theorem isLines_dropReturn {line rest : List Char} {more : List (List Char)} (hplain : '\n' ∉ line)
    (hrest : IsLines rest more) : IsLines (line ++ '\n' :: rest) (dropReturn line :: more) := by
  unfold dropReturn
  split
  · next hreturn =>
    obtain ⟨front, rfl⟩ := List.getLast?_eq_some_iff.mp hreturn
    have hfront : '\n' ∉ front := fun hmem => hplain (List.mem_append_left _ hmem)
    rw [List.dropLast_concat, List.append_assoc]
    exact .returned hfront hrest
  · next hreturn => exact .closed hplain hreturn hrest

theorem isLines_linesOfPieces {parts : List (List Char)} (hne : parts ≠ [])
    (h : ∀ part ∈ parts, '\n' ∉ part) : IsLines (joinPieces parts) (linesOfPieces parts) := by
  fun_induction linesOfPieces parts with
  | case1 => exact absurd rfl hne
  | case2 last hempty =>
    have hnil : last = [] := List.isEmpty_iff.mp hempty
    rw [hnil]
    exact .none
  | case3 last hempty =>
    have hlast : last ≠ [] := fun hnil => hempty (List.isEmpty_iff.mpr hnil)
    rw [joinPieces, List.intercalate_singleton]
    exact .unclosed hlast (h last List.mem_cons_self)
  | case4 line rest hrest ih =>
    obtain ⟨hline, hmore⟩ := List.forall_mem_cons.mp h
    have hjoin : joinPieces (line :: rest) = line ++ '\n' :: joinPieces rest := by
      rw [joinPieces, List.intercalate_cons_of_ne_nil hrest, List.append_assoc]
      rfl
    rw [hjoin]
    exact isLines_dropReturn hline (ih hrest hmore)

theorem isLines_lines (text : List Char) : IsLines text (lines text) := by
  have h := isLines_linesOfPieces (pieces_ne_nil text) fun _ => notMem_of_mem_pieces
  rwa [joinPieces_pieces] at h

theorem IsLines.newline_notMem {text : List Char} {rows : List (List Char)} (h : IsLines text rows) :
    ∀ row ∈ rows, '\n' ∉ row := by
  induction h with
  | none => simp
  | unclosed _ hplain => simpa using hplain
  | closed hplain _ _ ih => exact List.forall_mem_cons.mpr ⟨hplain, ih⟩
  | returned hplain _ ih => exact List.forall_mem_cons.mpr ⟨hplain, ih⟩

theorem notMem_of_mem_lines {text line : List Char} (h : line ∈ lines text) : '\n' ∉ line :=
  (isLines_lines text).newline_notMem line h

end Crosscheck.Text
