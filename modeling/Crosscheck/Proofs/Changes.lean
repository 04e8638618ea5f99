import Crosscheck.Changes
import Crosscheck.Proofs.Text.Pieces
import Mathlib.Data.List.Basic
import Mathlib.Data.List.TakeDrop
import Mathlib.Data.List.TakeWhile

/-! # Merging ends and loses nothing

Whatever is in the table, walking back through it takes a common subsequence of the lines, and so do
joining the taken lines and cutting them again. Along a common subsequence every round of the merge
takes a line and leaves a common subsequence, so the rounds come to an end; and in each of them the
lines that are kept or removed are those that leave the old text, the lines that are kept or added
those that leave the new one.
-/

namespace Crosscheck.Changes

open List

/-! ## A common subsequence -/

theorem traceBack_sublist (cells : Array Nat) (width : Nat) (xs ys : List Line) :
    traceBack cells width xs ys <+ xs ∧ traceBack cells width xs ys <+ ys := by
  fun_induction traceBack cells width xs ys with
  | case1 ys => exact ⟨nil_sublist _, nil_sublist _⟩
  | case2 xs => exact ⟨nil_sublist _, nil_sublist _⟩
  | case3 xs y ys ih => exact ⟨ih.1.cons_cons y, ih.2.cons_cons y⟩
  | case4 => exact ⟨nil_sublist _, nil_sublist _⟩
  | case5 x xs y ys _ _ _ ih => exact ⟨ih.1, ih.2.cons y⟩
  | case6 x xs y ys _ _ _ ih => exact ⟨ih.1.cons x, ih.2⟩

/-- Lines taken from a text, joined and cut again, are lines of the text. A lone empty line is no
line any more, and neither is it one of the empty text. -/
theorem linesOf_joinPieces_sublist {taken : List Line} {text : List Char}
    (h : taken <+ Text.pieces text) : linesOf (Text.joinPieces taken) <+ linesOf text := by
  by_cases hjoin : Text.joinPieces taken = []
  · simp [linesOf, hjoin]
  · have htaken : taken ≠ [] := fun hnil => hjoin (by rw [hnil]; rfl)
    have htext : text ≠ [] := by
      rintro rfl
      have hlone : taken <+ [[]] := h
      rcases sublist_singleton.mp hlone with hnil | hone
      · exact htaken hnil
      · exact hjoin (by rw [hone]; rfl)
    have hplain : ∀ line ∈ taken, '\n' ∉ line :=
      fun line hline => Text.notMem_of_mem_pieces (h.subset hline)
    unfold linesOf
    rw [if_neg hjoin, if_neg htext, Text.pieces_joinPieces htaken hplain]
    exact h

theorem linesOf_common_sublist (old new : List Char) :
    linesOf (common (Text.pieces old) (Text.pieces new)) <+ linesOf old ∧
      linesOf (common (Text.pieces old) (Text.pieces new)) <+ linesOf new := by
  have hback := traceBack_sublist (table (Text.pieces old) (Text.pieces new))
    (Text.pieces new).length (Text.pieces old).reverse (Text.pieces new).reverse
  have hold := hback.1.reverse
  have hnew := hback.2.reverse
  rw [reverse_reverse] at hold hnew
  exact ⟨linesOf_joinPieces_sublist hold, linesOf_joinPieces_sublist hnew⟩

/-! ## The lines in blocks -/

/-- The lines of blocks with their signs. -/
def signed (blocks : List Block) : List (Sign × Line) :=
  blocks.flatMap fun block => (Text.pieces block.text).map fun line => (block.sign, line)

/-- The lines that are kept or have the sign. -/
def side (sign : Sign) (changes : List (Sign × Line)) : List Line :=
  (changes.filter fun change => change.1 = .kept ∨ change.1 = sign).map Prod.snd

theorem signed_append (blocks more : List Block) :
    signed (blocks ++ more) = signed blocks ++ signed more := by
  simp [signed]

theorem side_append (sign : Sign) (changes more : List (Sign × Line)) :
    side sign (changes ++ more) = side sign changes ++ side sign more := by
  simp [side]

theorem signed_blockOf {sign : Sign} {lines : List Line} (h : ∀ line ∈ lines, '\n' ∉ line) :
    signed (blockOf sign lines) = lines.map fun line => (sign, line) := by
  unfold blockOf
  split
  · next hnil => rw [hnil]; rfl
  · next hne => simp [signed, Text.pieces_joinPieces hne h]

theorem side_map (sign own : Sign) (lines : List Line) :
    side sign (lines.map fun line => (own, line)) =
      if own = .kept ∨ own = sign then lines else [] := by
  unfold side
  split
  · next h => simp [filter_map, Function.comp_def, h]
  · next h => simp [filter_map, Function.comp_def, h]

/-! ## One round -/

/-- Lines that come next in all three are taken. -/
theorem shared_ne_nil (z : Line) (old new kept : List Line) :
    (shared (z :: old) (z :: new) (z :: kept)).1 ≠ [] := by
  unfold shared
  simp

theorem cutAtKept_nil (lines : List Line) : cutAtKept [] lines = (lines, []) := by
  unfold cutAtKept
  dsimp only
  rw [takeWhile_eq_self_iff.mpr (by simp), dropWhile_eq_nil_iff.mpr (by simp)]

/-- No line that is still to be kept is cut off. -/
theorem sublist_cutAtKept {kept lines : List Line} (h : kept <+ lines) :
    kept <+ (cutAtKept kept lines).2 := by
  unfold cutAtKept
  dsimp only
  induction lines with
  | nil => exact h
  | cons line lines ih =>
    cases kept with
    | nil => exact nil_sublist _
    | cons z kept =>
      by_cases hz : z = line
      · simpa [dropWhile_cons, hz] using h
      · have hrest : z :: kept <+ lines := h.of_cons_of_ne hz
        simpa [dropWhile_cons, hz] using ih hrest

/-- If nothing is cut off, the next line is the one that is kept next. -/
theorem eq_cons_of_cutAtKept {z : Line} {kept lines : List Line} (h : z :: kept <+ lines)
    (hcut : (cutAtKept (z :: kept) lines).1 = []) : ∃ rest, lines = z :: rest := by
  unfold cutAtKept at hcut
  cases lines with
  | nil => cases h
  | cons line lines =>
    by_cases hz : z = line
    · exact ⟨lines, by rw [hz]⟩
    · simp [hz] at hcut

/-- What is kept is still to come in both texts, and lines have no newlines in them. -/
structure Pending.Sound (p : Pending) : Prop where
  old : p.kept <+ p.old
  new : p.kept <+ p.new
  oldPlain : ∀ line ∈ p.old, '\n' ∉ line
  newPlain : ∀ line ∈ p.new, '\n' ∉ line

/-- The blocks lead from one state to another, and this takes lines. -/
structure Advance (p : Pending) (blocks : List Block) (q : Pending) : Prop where
  sound : q.Sound
  old : p.old = side .removed (signed blocks) ++ q.old
  new : p.new = side .added (signed blocks) ++ q.new
  shorter : q.size < p.size

/-- A round takes a line: a line that is kept next comes next in both texts if nothing is before it,
and without such a line all lines are taken. -/
theorem round_takes_line {p : Pending} (h : p.Sound) (hmore : ¬ (p.old = [] ∧ p.new = []))
    (hsame : (shared p.old p.new p.kept).1 = []) :
    (cutAtKept p.kept p.old).1 ≠ [] ∨ (cutAtKept p.kept p.new).1 ≠ [] := by
  obtain ⟨old, new, kept⟩ := p
  by_contra hnone
  rw [not_or, not_not, not_not] at hnone
  obtain ⟨hremoved, hadded⟩ := hnone
  cases kept with
  | nil =>
    rw [cutAtKept_nil] at hremoved hadded
    exact hmore ⟨hremoved, hadded⟩
  | cons z kept =>
    obtain ⟨old, rfl⟩ := eq_cons_of_cutAtKept h.old hremoved
    obtain ⟨new, rfl⟩ := eq_cons_of_cutAtKept h.new hadded
    exact shared_ne_nil z old new kept hsame

theorem round_parts {p : Pending} (h : p.Sound) (hmore : ¬ (p.old = [] ∧ p.new = [])) :
    ∃ same removed added q,
      p.round = (blockOf .kept same ++ blockOf .removed removed ++ blockOf .added added, q) ∧
      q.kept <+ q.old ∧ q.kept <+ q.new ∧
      p.old = same ++ removed ++ q.old ∧ p.new = same ++ added ++ q.new ∧
      same ++ removed ++ added ≠ [] := by
  obtain ⟨hold, hnew, hkept⟩ := shared_eq p.old p.new p.kept
  rcases hshared : shared p.old p.new p.kept with ⟨same, rest⟩
  rw [hshared] at hold hnew hkept
  dsimp only at hold hnew hkept
  have hsubold : rest.kept <+ rest.old := by
    have hsub := h.old
    rw [hkept, hold] at hsub
    exact (append_sublist_append_left same).mp hsub
  have hsubnew : rest.kept <+ rest.new := by
    have hsub := h.new
    rw [hkept, hnew] at hsub
    exact (append_sublist_append_left same).mp hsub
  refine ⟨same, (cutAtKept rest.kept rest.old).1, (cutAtKept rest.kept rest.new).1,
    ⟨(cutAtKept rest.kept rest.old).2, (cutAtKept rest.kept rest.new).2, rest.kept⟩, ?_,
    sublist_cutAtKept hsubold, sublist_cutAtKept hsubnew, ?_, ?_, ?_⟩
  · simp only [Pending.round, hshared]
  · rw [append_assoc, cutAtKept_append, hold]
  · rw [append_assoc, cutAtKept_append, hnew]
  · intro hnil
    simp only [append_eq_nil_iff] at hnil
    obtain ⟨⟨rfl, hremoved⟩, hadded⟩ := hnil
    rw [nil_append] at hold hnew hkept
    rw [← hold, ← hkept] at hremoved
    rw [← hnew, ← hkept] at hadded
    rcases round_takes_line h hmore (by rw [hshared]) with hsome | hsome
    · exact hsome hremoved
    · exact hsome hadded

theorem round_advances {p : Pending} (h : p.Sound) (hmore : ¬ (p.old = [] ∧ p.new = [])) :
    Advance p p.round.1 p.round.2 := by
  obtain ⟨same, removed, added, q, hround, hsubold, hsubnew, hold, hnew, htaken⟩ :=
    round_parts h hmore
  have holdPlain := h.oldPlain
  have hnewPlain := h.newPlain
  rw [hold, forall_mem_append, forall_mem_append] at holdPlain
  rw [hnew, forall_mem_append, forall_mem_append] at hnewPlain
  have hsigned : signed p.round.1 =
      same.map (Sign.kept, ·) ++ removed.map (Sign.removed, ·) ++ added.map (Sign.added, ·) := by
    rw [hround, signed_append, signed_append, signed_blockOf holdPlain.1.1,
      signed_blockOf holdPlain.1.2, signed_blockOf hnewPlain.1.2]
  have hrest : p.round.2 = q := by rw [hround]
  rw [hrest]
  refine ⟨⟨hsubold, hsubnew, holdPlain.2, hnewPlain.2⟩, ?_, ?_, ?_⟩
  · rw [hsigned, side_append, side_append, side_map, side_map, side_map, hold]
    simp
  · rw [hsigned, side_append, side_append, side_map, side_map, side_map, hnew]
    simp
  · have hlength := length_pos_iff.mpr htaken
    unfold Pending.size
    rw [hold, hnew]
    simp only [length_append] at hlength ⊢
    omega

/-! ## All rounds -/

theorem merge_ends {p : Pending} (h : p.Sound) :
    ∃ blocks, merge p = some blocks ∧
      side .removed (signed blocks) = p.old ∧ side .added (signed blocks) = p.new := by
  fun_induction merge p with
  | case1 p hover =>
    refine ⟨[], rfl, ?_, ?_⟩
    · rw [hover.1]; rfl
    · rw [hover.2]; rfl
  | case2 p hmore hstuck =>
    have hshorter := (round_advances h hmore).shorter
    rw [hstuck] at hshorter
    exact absurd hshorter (Nat.lt_irrefl _)
  | case3 p hmore _ ih =>
    have hround := round_advances h hmore
    obtain ⟨more, hmerge, hold, hnew⟩ := ih hround.sound
    refine ⟨p.round.1 ++ more, ?_, ?_, ?_⟩
    · rw [hmerge]; rfl
    · rw [signed_append, side_append, hold, hround.old]
    · rw [signed_append, side_append, hnew, hround.new]

theorem linesOf_plain (text : List Char) : ∀ line ∈ linesOf text, '\n' ∉ line := by
  unfold linesOf
  split
  · simp
  · exact fun line hline => Text.notMem_of_mem_pieces hline

/-- The changes between two texts are found, and both texts can be read off them. -/
theorem between_ends (old new : List Char) :
    ∃ blocks, between old new = some blocks ∧
      side .removed (signed blocks) = linesOf old ∧ side .added (signed blocks) = linesOf new := by
  obtain ⟨hold, hnew⟩ := linesOf_common_sublist old new
  exact merge_ends ⟨hold, hnew, linesOf_plain old, linesOf_plain new⟩

end Crosscheck.Changes
