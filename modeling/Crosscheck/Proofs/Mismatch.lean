import Crosscheck.Report
import Crosscheck.Proofs.Changes
import Crosscheck.Proofs.Text.Escaped

/-! # What a shown mismatch says

A shown mismatch is written line by line: two titles, the changes, and the bytes of both outputs.
Every line of a change has its sign behind four spaces, and the lines of one side spell the text of
that side.
-/

namespace Crosscheck

open Changes

/-- The lines are those of the text; an empty text has none. -/
def Text.Spells (lines : List (List Char)) (text : List Char) : Prop :=
  joinPieces lines = text ∧ (lines = [] ↔ text = [])

theorem Text.spells_linesOf (text : List Char) : Spells (linesOf text) text := by
  unfold linesOf
  split
  · next h =>
    rw [h]
    exact ⟨rfl, by simp⟩
  · next h => exact ⟨joinPieces_pieces text, by simp [h, pieces_ne_nil]⟩

namespace Report

/-! ## The lines that are written -/

def titles : List (List Char) :=
  ["    --- reference (expected)".toList, "    +++ compiled (actual)".toList]

def changeText (change : Sign × Line) : List Char :=
  "    ".toList ++ signChar change.1 :: change.2

def byteLines (expected actual : Bytes) : List (List Char) :=
  ["    expected bytes: ".toList ++ Text.escape expected,
    "    actual bytes:   ".toList ++ Text.escape actual]

theorem toList_plain (fragments : List Fragment) :
    (plain fragments).toList = fragments.flatMap fun fragment => fragment.plain.toList := by
  unfold plain
  rw [String.toList_join, List.flatMap_map]

@[simp] theorem toList_plain_line (text : String) :
    (Fragment.line text).plain.toList = text.toList ++ ['\n'] := by
  simp [Fragment.line, Fragment.plain]

theorem toList_plain_changeLine (sign : Sign) (line : Line) :
    (changeLine sign line).plain.toList = changeText (sign, line) ++ ['\n'] := by
  unfold changeLine
  rw [toList_plain_line, String.toList_ofList]
  rfl

theorem flatMap_plain_changeBlock (block : Block) :
    (changeBlock block).flatMap (fun fragment => fragment.plain.toList) =
      ((signed [block]).map changeText).flatMap (· ++ ['\n']) := by
  have hpaint : (Fragment.paint (signPaint block.sign)).plain.toList = [] := rfl
  have hreset : Fragment.reset.plain.toList = [] := rfl
  simp [changeBlock, signed, hpaint, hreset, toList_plain_changeLine, List.flatMap_map]

theorem flatMap_changeBlock (blocks : List Block) :
    (blocks.flatMap changeBlock).flatMap (fun fragment => fragment.plain.toList) =
      ((signed blocks).map changeText).flatMap (· ++ ['\n']) := by
  induction blocks with
  | nil => rfl
  | cons block blocks ih =>
    have hsigned : signed (block :: blocks) = signed [block] ++ signed blocks :=
      signed_append [block] blocks
    rw [hsigned, List.flatMap_cons, List.flatMap_append, ih, flatMap_plain_changeBlock,
      List.map_append, List.flatMap_append]

theorem toList_plain_mismatch {expected actual : Bytes} {blocks : List Block}
    (h : between (Utf8.decodeLossy expected) (Utf8.decodeLossy actual) = some blocks) :
    (plain (mismatch expected actual)).toList =
      (titles ++ (signed blocks).map changeText ++ byteLines expected actual).flatMap
        (· ++ ['\n']) := by
  rw [toList_plain]
  unfold mismatch
  simp only [h, Option.getD_some, List.flatMap_append, flatMap_changeBlock]
  simp [titles, byteLines]

theorem newline_notMem_changeText {change : Sign × Line} (h : '\n' ∉ change.2) :
    '\n' ∉ changeText change := by
  have hsign : '\n' ≠ signChar change.1 := by cases change.1 <;> decide
  simp [changeText, hsign, h]

theorem newline_notMem_signed {blocks : List Block} {change : Sign × Line}
    (h : change ∈ signed blocks) : '\n' ∉ change.2 := by
  obtain ⟨block, -, hmem⟩ := List.mem_flatMap.mp h
  obtain ⟨line, hline, rfl⟩ := List.mem_map.mp hmem
  exact Text.notMem_of_mem_pieces hline

theorem pieces_plain_mismatch {expected actual : Bytes} {blocks : List Block}
    (h : between (Utf8.decodeLossy expected) (Utf8.decodeLossy actual) = some blocks) :
    Text.pieces (plain (mismatch expected actual)).toList =
      titles ++ (signed blocks).map changeText ++ byteLines expected actual ++ [[]] := by
  rw [toList_plain_mismatch h]
  apply Text.pieces_flatMap_line
  intro line hline
  rw [List.mem_append, List.mem_append] at hline
  rcases hline with (htitle | hchange) | hbytes
  · revert line
    decide
  · obtain ⟨change, hmem, rfl⟩ := List.mem_map.mp hchange
    exact newline_notMem_changeText (newline_notMem_signed hmem)
  · have hexpected := Text.newline_notMem_escape expected
    have hactual := Text.newline_notMem_escape actual
    simp only [byteLines, List.mem_cons, List.not_mem_nil, or_false] at hbytes
    rcases hbytes with rfl | rfl
    · simp [hexpected]
    · simp [hactual]

/-! ## Reading the changes -/

/-- What stands behind the sign of a line, if the sign is one of these. -/
def unsigned (signs : List Char) (line : List Char) : Option (List Char) :=
  match line.drop 4 with
  | [] => none
  | sign :: rest => if sign ∈ signs then some rest else none

theorem unsigned_changeText (signs : List Char) (change : Sign × Line) :
    unsigned signs (changeText change) =
      if signChar change.1 ∈ signs then some change.2 else none := rfl

theorem signChar_mem_iff (own sign : Sign) :
    signChar own ∈ [signChar .kept, signChar sign] ↔ own = .kept ∨ own = sign := by
  cases own <;> cases sign <;> decide

theorem filterMap_unsigned (sign : Sign) (changes : List (Sign × Line)) :
    (changes.map changeText).filterMap (unsigned [signChar .kept, signChar sign]) =
      side sign changes := by
  unfold side
  induction changes with
  | nil => rfl
  | cons change changes ih =>
    simp only [List.map_cons, List.filterMap_cons, unsigned_changeText, signChar_mem_iff,
      List.filter_cons, decide_eq_true_eq]
    by_cases h : change.1 = .kept ∨ change.1 = sign
    · simp [h, ih]
    · simp [h, ih]

/-- The changes between two outputs are found and shown, and nothing is lost: the lines that are
kept or removed spell the expected text, those that are kept or added the actual one. -/
theorem line_diff_lossless (expected actual : Bytes) :
    (∃ blocks, between (Utf8.decodeLossy expected) (Utf8.decodeLossy actual) = some blocks) ∧
    ∃ lines : List (List Char),
      Text.pieces (plain (mismatch expected actual)).toList =
        titles ++ lines ++ byteLines expected actual ++ [[]] ∧
      (∀ line ∈ lines, ∃ sign ∈ [' ', '-', '+'], ∃ rest, line = "    ".toList ++ sign :: rest) ∧
      Text.Spells (lines.filterMap (unsigned [' ', '-'])) (Utf8.decodeLossy expected) ∧
      Text.Spells (lines.filterMap (unsigned [' ', '+'])) (Utf8.decodeLossy actual) := by
  obtain ⟨blocks, hblocks, hold, hnew⟩ :=
    between_ends (Utf8.decodeLossy expected) (Utf8.decodeLossy actual)
  refine ⟨⟨blocks, hblocks⟩, (signed blocks).map changeText, pieces_plain_mismatch hblocks,
    ?_, ?_, ?_⟩
  · intro line hline
    obtain ⟨change, -, rfl⟩ := List.mem_map.mp hline
    refine ⟨signChar change.1, ?_, change.2, rfl⟩
    cases change.1 <;> decide
  · have hside := filterMap_unsigned .removed (signed blocks)
    rw [hold] at hside
    exact hside ▸ Text.spells_linesOf _
  · have hside := filterMap_unsigned .added (signed blocks)
    rw [hnew] at hside
    exact hside ▸ Text.spells_linesOf _

end Report

end Crosscheck
