import Crosscheck.Proofs.Pipeline.Comparison
import Crosscheck.Proofs.Text.Unescaped
import Crosscheck.Proofs.Transcript

/-! # The bytes that a mismatch shows

A mismatch is a verdict on two byte strings that differ. The report ends with both of them as they
are, escaped, and escaping keeps different byte strings apart. So the two texts at the end differ,
even where the outputs make the same text and every line of the changes is kept.
-/

namespace Crosscheck

variable {σ : Type}

theorem Pipeline.ne_of_mismatch {runner : Runner σ} {tools : Toolchain} {case : TestCase}
    {w : World σ} {expected actual : Bytes}
    (h : (execute runner tools case w).1 = .ok (.mismatch expected actual)) :
    expected ≠ actual := by
  obtain ⟨p, -, -, hjudge⟩ := (execute_eq_ok_iff rfl w).mp h
  obtain ⟨hne, rfl, rfl⟩ := (judge_eq_mismatch_iff _ _ expected actual).mp hjudge.symm
  exact hne

/-- The report of a mismatch ends with the bytes of both outputs. -/
theorem Report.pieces_outcome_mismatch (name : String) (expected actual : Bytes) :
    ∃ lines, Text.pieces (plain (outcome ⟨name, .mismatch expected actual⟩)).toList =
      lines ++ byteLines expected actual ++ [[]] := by
  obtain ⟨blocks, hblocks, -, -⟩ :=
    Changes.between_ends (Utf8.decodeLossy expected) (Utf8.decodeLossy actual)
  have htext : (plain (outcome ⟨name, .mismatch expected actual⟩)).toList =
      headerLine name .outputMismatch ++ '\n' :: (plain (mismatch expected actual)).toList :=
    toList_plain_outcome ⟨name, .mismatch expected actual⟩
  refine ⟨Text.pieces (headerLine name .outputMismatch) ++
    (titles ++ (Changes.signed blocks).map changeText), ?_⟩
  rw [htext, Text.pieces_append_line, pieces_plain_mismatch hblocks]
  simp only [List.append_assoc]

/-- Escaping can be undone, so it keeps byte strings apart. An escaped byte string is in printable
ASCII between two quotes, and a quote between these has an odd number of backslashes in front. Hence
the bytes that the report of a mismatch ends with are never the same text twice. -/
theorem shown_bytes_tell_outputs_apart :
    Function.Injective Text.escape ∧
    (∀ bytes : Bytes,
      Text.unescape (Text.escape bytes) = bytes ∧
      (∀ c ∈ Text.escape bytes, 0x20 ≤ c.toNat ∧ c.toNat ≤ 0x7E) ∧
      (∃ inner, Text.escape bytes = '"' :: (inner ++ ['"'])) ∧
      ∀ front back, Text.escape bytes = front ++ '"' :: back → front ≠ [] → back ≠ [] →
        Odd (Text.backslashes front)) ∧
    ∀ (runner : Runner σ) (tools : Toolchain) (case : TestCase) (w : World σ)
      (expected actual : Bytes),
      (Pipeline.execute runner tools case w).1 = .ok (.mismatch expected actual) →
      ∃ lines shown shown',
        Text.pieces
            (Report.plain (Report.outcome ⟨case.name, .mismatch expected actual⟩)).toList =
          lines ++ ["    expected bytes: ".toList ++ shown, "    actual bytes:   ".toList ++ shown',
            []] ∧
        shown = Text.escape expected ∧ shown' = Text.escape actual ∧ shown ≠ shown' := by
  refine ⟨Text.escape_injective, fun bytes => ⟨Text.unescape_escape bytes,
    fun _ => Text.printable_of_mem_escape, ⟨_, rfl⟩, fun _ _ => Text.odd_backslashes_of_quote⟩, ?_⟩
  intro runner tools case w expected actual h
  obtain ⟨lines, hlines⟩ := Report.pieces_outcome_mismatch case.name expected actual
  refine ⟨lines, Text.escape expected, Text.escape actual, ?_, rfl, rfl, ?_⟩
  · rw [hlines, List.append_assoc]
    rfl
  · exact Text.escape_injective.ne (Pipeline.ne_of_mismatch h)

/-! ## Outputs that make the same text -/

/-- Every program does well; the reference and the executable write bytes that are no text. -/
def blurredRunner : Runner Unit where
  run _ disk invocation :=
    (.ok { state := .exited 0, stdout := if invocation.program = "ref" then [0xFF] else [0xFE] },
      (), if invocation.program = "cc" then disk.set ["work", "p.ll"] (.file [] false) else disk)

/-- The outputs are one text and no line of it is changed, but the bytes that are shown differ. -/
theorem blurredRunner_shows_bytes :
    (Pipeline.execute blurredRunner Pipeline.narrowTools Pipeline.narrowCase
      (World.start () Disk.fresh .built)).1 = .ok (.mismatch [0xFF] [0xFE]) ∧
    Utf8.decodeLossy [0xFF] = Utf8.decodeLossy [0xFE] ∧
    Changes.between (Utf8.decodeLossy [0xFF]) (Utf8.decodeLossy [0xFE]) =
      some [⟨.kept, [Utf8.replacement]⟩] ∧
    ∃ lines, Text.pieces (Report.plain (Report.outcome ⟨"p", .mismatch [0xFF] [0xFE]⟩)).toList =
      lines ++ ["    expected bytes: \"\\xff\"".toList, "    actual bytes:   \"\\xfe\"".toList,
        []] := by
  have hmismatch : (Pipeline.execute blurredRunner Pipeline.narrowTools Pipeline.narrowCase
      (World.start () Disk.fresh .built)).1 = .ok (.mismatch [0xFF] [0xFE]) := rfl
  have hkept : Changes.between (Utf8.decodeLossy [0xFF]) (Utf8.decodeLossy [0xFE]) =
      some [⟨.kept, [Utf8.replacement]⟩] := by decide +kernel
  obtain ⟨lines, shown, shown', hpieces, rfl, rfl, -⟩ :=
    shown_bytes_tell_outputs_apart.2.2 blurredRunner Pipeline.narrowTools Pipeline.narrowCase
      (World.start () Disk.fresh .built) [0xFF] [0xFE] hmismatch
  exact ⟨hmismatch, rfl, hkept, lines, hpieces⟩

end Crosscheck
