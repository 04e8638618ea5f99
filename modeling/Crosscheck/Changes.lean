import Crosscheck.Text.Lines

/-! # Line by line changes

The changes that lead from one text to another: lines kept, removed and added. The kept lines are a
common subsequence found by walking back through a table of lengths. The texts are then merged along
it, in rounds that end when both are used up.
-/

namespace Crosscheck.Changes

/-- What became of a line. -/
inductive Sign where
  | kept
  | removed
  | added
  deriving DecidableEq, Repr

abbrev Line := List Char

/-! ## A common subsequence -/

/-- One row of the table: the cell of a line equal to `x` is one more than the cell before it in the
row above, any other cell the greater one of its neighbours to the left and above. -/
def tableRow (x : Line) : List Line → List Nat → Nat → Nat → List Nat
  | [], _, _, _ => []
  | y :: ys, above, diagonal, left =>
    let up := above.headD 0
    let cell := if x = y then diagonal + 1 else max left up
    cell :: tableRow x ys above.tail up cell

/-- The rows of the table from the first line of the old text on. -/
def tableRows (new : List Line) : List Line → List Nat → List (List Nat)
  | [], _ => []
  | x :: xs, above =>
    let row := tableRow x new above 0 0
    row :: tableRows new xs row

/-- All cells, row after row. -/
def table (old new : List Line) : Array Nat :=
  (tableRows new old []).flatten.toArray

/-- Walks back from the ends of both texts, given last line first. Equal lines are taken; otherwise
one step back is made in the text that the table favours. `width` is the length of a row, and the
cell before the first one of a row is the last one of the row above. -/
def traceBack (cells : Array Nat) (width : Nat) : List Line → List Line → List Line
  | [], _ => []
  | _, [] => []
  | x :: xs, y :: ys =>
    if x = y then x :: traceBack cells width xs ys
    else if xs = [] ∧ ys = [] then []
    else if xs = [] ∨
        cells.getD (xs.length * width + ys.length - 1) 0 >
          cells.getD ((xs.length - 1) * width + ys.length) 0 then
      traceBack cells width (x :: xs) ys
    else traceBack cells width xs (y :: ys)
  termination_by xs ys => xs.length + ys.length

/-- Lines that both texts have in the same order, as one text. -/
def common (old new : List Line) : List Char :=
  Text.joinPieces (traceBack (table old new) new.length old.reverse new.reverse).reverse

/-! ## Merging along the common lines -/

/-- Neighbouring lines of one sign, as one text. -/
structure Block where
  sign : Sign
  text : List Char
  deriving DecidableEq, Repr

/-- The lines still to be merged, and those still to come of the ones that are kept. -/
structure Pending where
  old : List Line
  new : List Line
  kept : List Line
  deriving DecidableEq, Repr

/-- The lines that come next in all three, and what is pending behind them. -/
def shared : List Line → List Line → List Line → List Line × Pending
  | x :: old, y :: new, z :: kept =>
    if x = z ∧ y = z then
      let (lines, rest) := shared old new kept
      (x :: lines, rest)
    else ([], ⟨x :: old, y :: new, z :: kept⟩)
  | old, new, kept => ([], ⟨old, new, kept⟩)

/-- Cuts lines before the first one that is kept next. If none is to come, all of them are before
it. -/
def cutAtKept (kept lines : List Line) : List Line × List Line :=
  let before (line : Line) : Bool := kept.head? ≠ some line
  (lines.takeWhile before, lines.dropWhile before)

/-- A block of lines, if there are any. -/
def blockOf (sign : Sign) (lines : List Line) : List Block :=
  if lines = [] then [] else [⟨sign, Text.joinPieces lines⟩]

/-- One round: the lines that come next in all three, then those of the old text and those of the
new text before the line that is kept next. -/
def Pending.round (p : Pending) : List Block × Pending :=
  let (same, p) := shared p.old p.new p.kept
  let (removed, old) := cutAtKept p.kept p.old
  let (added, new) := cutAtKept p.kept p.new
  (blockOf .kept same ++ blockOf .removed removed ++ blockOf .added added, ⟨old, new, p.kept⟩)

/-- The number of lines still to be merged. -/
def Pending.size (p : Pending) : Nat :=
  p.old.length + p.new.length

theorem shared_eq (old new kept : List Line) :
    old = (shared old new kept).1 ++ (shared old new kept).2.old ∧
      new = (shared old new kept).1 ++ (shared old new kept).2.new ∧
      kept = (shared old new kept).1 ++ (shared old new kept).2.kept := by
  fun_induction shared old new kept with
  | case1 x old y new z kept h lines rest hrest ih =>
    obtain ⟨rfl, rfl⟩ := h
    rw [hrest] at ih
    simpa using ih
  | case2 => simp
  | case3 => simp

theorem cutAtKept_append (kept lines : List Line) :
    (cutAtKept kept lines).1 ++ (cutAtKept kept lines).2 = lines :=
  List.takeWhile_append_dropWhile

/-- A round that changes anything takes lines. -/
theorem Pending.round_shorter {p : Pending} (h : p.round.2 ≠ p) : p.round.2.size < p.size := by
  obtain ⟨old, new, kept⟩ := p
  obtain ⟨hold, hnew, hkept⟩ := shared_eq old new kept
  unfold Pending.round at h ⊢
  dsimp only at h ⊢
  generalize shared old new kept = s at hold hnew hkept h ⊢
  obtain ⟨same, rest⟩ := s
  have hremoved := cutAtKept_append rest.kept rest.old
  have hadded := cutAtKept_append rest.kept rest.new
  generalize cutAtKept rest.kept rest.old = removed at hremoved h ⊢
  generalize cutAtKept rest.kept rest.new = added at hadded h ⊢
  dsimp only at hold hnew hkept h ⊢
  rw [← hremoved] at hold
  rw [← hadded] at hnew
  subst hold hnew hkept
  simp only [Pending.size, List.length_append]
  -- If no line is taken, the three parts are empty and nothing has changed.
  refine Nat.lt_of_not_le fun hle => h ?_
  have hsame : same = [] := List.eq_nil_of_length_eq_zero (by omega)
  have hkeepsOld : removed.1 = [] := List.eq_nil_of_length_eq_zero (by omega)
  have hkeepsNew : added.1 = [] := List.eq_nil_of_length_eq_zero (by omega)
  rw [hsame, hkeepsOld, hkeepsNew]
  rfl

/-- Rounds until both texts are used up. A round that changes nothing would be repeated without end;
there is no result then. -/
def merge (p : Pending) : Option (List Block) :=
  if p.old = [] ∧ p.new = [] then some []
  else if p.round.2 = p then none
  else (merge p.round.2).map (p.round.1 ++ ·)
  termination_by p.size
  decreasing_by exact Pending.round_shorter ‹_›

/-- The lines of a text; an empty text has none. -/
def linesOf (text : List Char) : List Line :=
  if text = [] then [] else Text.pieces text

/-- The blocks that lead from one text to another. -/
def between (old new : List Char) : Option (List Block) :=
  merge ⟨linesOf old, linesOf new, linesOf (common (Text.pieces old) (Text.pieces new))⟩

end Crosscheck.Changes
