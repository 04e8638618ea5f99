import Crosscheck.Proofs.Mismatch
import Mathlib.Data.List.Infix

/-! # Headers in a transcript

Each outcome is reported by a header and by details. Whatever a program has written, the details are
lines that are set in by four spaces, and a header is not. So the lines that are not set in are the
headers, one for each outcome and in order. A header starts with its mark and, unless the case has
passed, ends with its kind in brackets; none of these endings is the ending of another, so the name
and the kind can be told from the header, even if the name looks like a header itself.
-/

namespace Crosscheck

/-- Nothing that is reported on a line of its own has a newline in it. What programs have written
may be anything. -/
def Outcome.OneLined (outcome : Outcome) : Prop :=
  '\n' ∉ outcome.name.toList ∧
  ∀ failure ∈ outcome.verdict.failure?, '\n' ∉ failure.command.toList ∧
    ∀ reason ∈ failure.reason, '\n' ∉ reason.toList

instance (outcome : Outcome) : Decidable outcome.OneLined :=
  inferInstanceAs (Decidable (_ ∧ _))

namespace Report

/-! ## Headers -/

/-- What the header of a case that did not pass ends with. -/
def kindMark (kind : Kind) : List Char :=
  " (".toList ++ kind.name.toList ++ ")".toList

/-- The line that says how a case went. -/
def headerLine (name : String) (kind : Kind) : List Char :=
  if kind = .pass then "✓ ".toList ++ name.toList
  else "✗ ".toList ++ name.toList ++ kindMark kind

theorem toList_plain_header (name : String) (kind : Kind) :
    (plain (header name kind)).toList = headerLine name kind ++ ['\n'] := by
  rw [toList_plain]
  unfold header headerLine
  split
  · simp [Fragment.plain, Fragment.line]
  · simp [Fragment.plain, Fragment.line, kindMark]

theorem toList_plain_outcome (outcome : Outcome) :
    (plain (Report.outcome outcome)).toList =
      headerLine outcome.name outcome.verdict.kind ++
        '\n' :: (plain (details outcome.verdict)).toList := by
  have hheader := toList_plain_header outcome.name outcome.verdict.kind
  rw [toList_plain] at hheader ⊢
  unfold Report.outcome
  rw [List.flatMap_append, hheader, toList_plain, ← List.append_cons]

theorem newline_notMem_headerLine {name : String} (h : '\n' ∉ name.toList) (kind : Kind) :
    '\n' ∉ headerLine name kind := by
  have hkind : '\n' ∉ kindMark kind := by cases kind <;> decide
  unfold headerLine
  split
  · simp [h]
  · simp [h, hkind]

theorem eq_of_kindMark_suffix {kind kind' : Kind} (h : kindMark kind <:+ kindMark kind') :
    kind = kind' := by
  revert h
  cases kind <;> cases kind' <;> decide

theorem headerLine_injective {name name' : String} {kind kind' : Kind}
    (h : headerLine name kind = headerLine name' kind') : name = name' ∧ kind = kind' := by
  unfold headerLine at h
  by_cases hpass : kind = .pass
  · by_cases hpass' : kind' = .pass
    · rw [if_pos hpass, if_pos hpass', List.append_cancel_left_eq, String.toList_inj] at h
      exact ⟨h, hpass.trans hpass'.symm⟩
    · simp [hpass, hpass'] at h
  · by_cases hpass' : kind' = .pass
    · simp [hpass, hpass'] at h
    · rw [if_neg hpass, if_neg hpass'] at h
      -- Both endings are endings of one line, so one of them is an ending of the other.
      have hkind : kind = kind' := by
        rcases List.suffix_or_suffix_of_suffix ⟨_, h⟩ (List.suffix_append _ _) with hs | hs
        · exact eq_of_kindMark_suffix hs
        · exact (eq_of_kindMark_suffix hs).symm
      rw [hkind, List.append_cancel_right_eq, List.append_cancel_left_eq, String.toList_inj] at h
      exact ⟨h, hkind⟩

/-! ## Details -/

/-- Whether a line is set in by four spaces. -/
def isSetIn (line : List Char) : Bool :=
  "    ".toList.isPrefixOf line

theorem isSetIn_headerLine (name : String) (kind : Kind) :
    isSetIn (headerLine name kind) = false := by
  unfold headerLine isSetIn
  split
  · simp [List.isPrefixOf]
  · simp [List.isPrefixOf]

/-- A change of colour, or a line that is set in. -/
inductive Detail : Fragment → Prop
  | paint (paint : Paint) : Detail (.paint paint)
  | reset : Detail .reset
  | line {text : String} (hset : isSetIn text.toList = true) (hplain : '\n' ∉ text.toList) :
      Detail (.line text)

theorem lines_of_details {fragments : List Fragment} (h : ∀ fragment ∈ fragments, Detail fragment) :
    ∃ lines : List (List Char), (plain fragments).toList = lines.flatMap (· ++ ['\n']) ∧
      ∀ line ∈ lines, isSetIn line = true ∧ '\n' ∉ line := by
  rw [toList_plain]
  induction fragments with
  | nil => exact ⟨[], rfl, by simp⟩
  | cons fragment fragments ih =>
    obtain ⟨hfirst, hrest⟩ := List.forall_mem_cons.mp h
    obtain ⟨lines, htext, hlines⟩ := ih hrest
    rw [List.flatMap_cons, htext]
    cases hfirst with
    | paint paint => exact ⟨lines, rfl, hlines⟩
    | reset => exact ⟨lines, rfl, hlines⟩
    | @line text hset hplain =>
      refine ⟨text.toList :: lines, ?_, List.forall_mem_cons.mpr ⟨⟨hset, hplain⟩, hlines⟩⟩
      rw [toList_plain_line, List.flatMap_cons]

theorem newline_notMem_natText (n : Nat) : '\n' ∉ (toString n).toList := by
  intro h
  have hdigits : '\n' ∈ Nat.toDigits 10 n := by
    rw [← Nat.toList_repr]
    exact h
  have hdigit : '\n'.isDigit = true :=
    Nat.isDigit_of_mem_toDigits (by decide) (by decide) hdigits
  exact absurd hdigit (by decide)

theorem newline_notMem_moreBytes (n : Nat) :
    '\n' ∉ ("    | ... (" ++ toString n ++ " more bytes)").toList := by
  rw [String.toList_append, String.toList_append, List.mem_append, List.mem_append, not_or, not_or]
  exact ⟨⟨by decide, newline_notMem_natText n⟩, by decide⟩

theorem newline_notMem_intText (n : Int) : '\n' ∉ (toString n).toList := by
  cases n with
  | ofNat n => exact newline_notMem_natText n
  | negSucc n =>
    have htext : toString (Int.negSucc n) = "-" ++ toString (n + 1) := rfl
    rw [htext, String.toList_append, List.mem_append, not_or]
    exact ⟨by decide, newline_notMem_natText (n + 1)⟩

theorem newline_notMem_stateText (state : ExitState) : '\n' ∉ state.message.toList := by
  cases state with
  | exited code =>
    have htext : (ExitState.exited code).message = "exited with status " ++ toString code := rfl
    rw [htext, String.toList_append, List.mem_append, not_or]
    exact ⟨by decide, newline_notMem_intText code⟩
  | signaled signal =>
    have htext : (ExitState.signaled signal).message =
        "terminated by signal " ++ toString signal := rfl
    rw [htext, String.toList_append, List.mem_append, not_or]
    exact ⟨by decide, newline_notMem_intText signal⟩
  | timedOut => decide

theorem newline_notMem_message {failure : StageFailure} (hcommand : '\n' ∉ failure.command.toList)
    (hreason : ∀ reason ∈ failure.reason, '\n' ∉ reason.toList) :
    '\n' ∉ failure.message.toList := by
  have hstage : '\n' ∉ failure.stage.name.toList := by
    cases failure.stage with
    | process step => cases step <;> decide
    | compare => decide
  have hstate := newline_notMem_stateText failure.state
  unfold StageFailure.message
  cases hr : failure.reason with
  | none => simp [hstage, hcommand, hstate]
  | some reason => simp [hstage, hcommand, hstate, hreason reason hr]

/-- Every line of the diagnostics of a process is set in behind a bar. -/
theorem detail_of_mem_stageFailure {failure : StageFailure}
    (hcommand : '\n' ∉ failure.command.toList)
    (hreason : ∀ reason ∈ failure.reason, '\n' ∉ reason.toList) :
    ∀ fragment ∈ stageFailure failure, Detail fragment := by
  have hhead : Detail (.line ("    " ++ failure.message)) :=
    .line (by simp [isSetIn]) (by simp [newline_notMem_message hcommand hreason])
  intro fragment hmem
  unfold stageFailure at hmem
  dsimp only at hmem
  split at hmem
  · rw [List.mem_singleton] at hmem
    exact hmem ▸ hhead
  · simp only [List.mem_append, List.mem_cons, List.not_mem_nil, or_false, List.mem_map] at hmem
    rcases hmem with (((rfl | rfl) | ⟨line, hline, rfl⟩) | hmore) | rfl
    · exact hhead
    · exact .paint .dimmed
    · have hplain := Text.notMem_of_mem_lines hline
      exact .line (by simp [isSetIn]) (by simp [hplain])
    · split at hmore
      · cases hmore
      · rw [List.mem_singleton] at hmore
        subst hmore
        exact .line (by simp [isSetIn]) (newline_notMem_moreBytes _)
    · exact .reset

theorem detail_of_mem_changeBlock {block : Changes.Block} :
    ∀ fragment ∈ changeBlock block, Detail fragment := by
  intro fragment hmem
  unfold changeBlock at hmem
  simp only [List.mem_append, List.mem_cons, List.not_mem_nil, or_false, List.mem_map] at hmem
  rcases hmem with (rfl | ⟨line, hline, rfl⟩) | rfl
  · exact .paint _
  · have hplain : '\n' ∉ line := Text.notMem_of_mem_pieces hline
    have htext : '\n' ∉ changeText (block.sign, line) := newline_notMem_changeText hplain
    exact .line (by simp [isSetIn]) (by rwa [String.toList_ofList])
  · exact .reset

theorem detail_of_mem_mismatch (expected actual : Bytes) :
    ∀ fragment ∈ mismatch expected actual, Detail fragment := by
  intro fragment hmem
  unfold mismatch at hmem
  simp only [List.mem_append, List.mem_cons, List.not_mem_nil, or_false, List.mem_flatMap] at hmem
  rcases hmem with ((rfl | rfl) | ⟨block, -, hmem⟩) | rfl | rfl
  · exact .line (by decide) (by decide)
  · exact .line (by decide) (by decide)
  · exact detail_of_mem_changeBlock fragment hmem
  · exact .line (by simp [isSetIn]) (by simp [Text.newline_notMem_escape])
  · exact .line (by simp [isSetIn]) (by simp [Text.newline_notMem_escape])

theorem detail_of_mem_details {outcome : Outcome} (h : outcome.OneLined) :
    ∀ fragment ∈ details outcome.verdict, Detail fragment := by
  obtain ⟨name, verdict⟩ := outcome
  cases verdict with
  | pass => simp [details]
  | failed step failure =>
    obtain ⟨hcommand, hreason⟩ := h.2 failure rfl
    exact detail_of_mem_stageFailure hcommand hreason
  | mismatch expected actual => exact detail_of_mem_mismatch expected actual

/-! ## Transcripts -/

/-- The reports of outcomes, one after another. -/
def transcript (outcomes : List Outcome) : String :=
  String.join (outcomes.map fun outcome => plain (Report.outcome outcome))

/-- An outcome is reported by its header and by lines that are set in. -/
theorem lines_outcome {outcome : Outcome} (h : outcome.OneLined) :
    ∃ more : List (List Char),
      (plain (Report.outcome outcome)).toList =
        (headerLine outcome.name outcome.verdict.kind :: more).flatMap (· ++ ['\n']) ∧
      ∀ line ∈ more, isSetIn line = true ∧ '\n' ∉ line := by
  obtain ⟨more, hdetails, hmore⟩ := lines_of_details (detail_of_mem_details h)
  refine ⟨more, ?_, hmore⟩
  rw [toList_plain_outcome, hdetails, List.flatMap_cons, ← List.append_cons]

theorem lines_transcript {outcomes : List Outcome} (h : ∀ outcome ∈ outcomes, outcome.OneLined) :
    ∃ lines : List (List Char),
      (transcript outcomes).toList = lines.flatMap (· ++ ['\n']) ∧ (∀ line ∈ lines, '\n' ∉ line) ∧
      lines.filter (fun line => !isSetIn line) =
        outcomes.map fun outcome => headerLine outcome.name outcome.verdict.kind := by
  unfold transcript
  rw [String.toList_join]
  induction outcomes with
  | nil => exact ⟨[], rfl, by simp, rfl⟩
  | cons outcome outcomes ih =>
    obtain ⟨hfirst, hrest⟩ := List.forall_mem_cons.mp h
    obtain ⟨more, htext, hmore⟩ := lines_outcome hfirst
    obtain ⟨lines, hlater, hplain, hheaders⟩ := ih hrest
    have hheader := newline_notMem_headerLine hfirst.1 outcome.verdict.kind
    have hnone : more.filter (fun line => !isSetIn line) = [] :=
      List.filter_eq_nil_iff.mpr fun line hline => by simp [(hmore line hline).1]
    refine ⟨headerLine outcome.name outcome.verdict.kind :: more ++ lines, ?_, ?_, ?_⟩
    · rw [List.map_cons, List.flatMap_cons, htext, hlater, List.flatMap_append]
    · intro line hline
      rcases List.mem_append.mp hline with hown | hline
      · rcases List.mem_cons.mp hown with rfl | hdetail
        · exact hheader
        · exact (hmore line hdetail).2
      · exact hplain line hline
    · rw [List.filter_append, List.filter_cons, isSetIn_headerLine, hnone, hheaders]
      rfl

theorem pieces_transcript {outcomes : List Outcome} (h : ∀ outcome ∈ outcomes, outcome.OneLined) :
    ∃ lines, Text.pieces (transcript outcomes).toList = lines ++ [[]] ∧
      lines.filter (fun line => !isSetIn line) =
        outcomes.map fun outcome => headerLine outcome.name outcome.verdict.kind := by
  obtain ⟨lines, htext, hplain, hheaders⟩ := lines_transcript h
  exact ⟨lines, by rw [htext, Text.pieces_flatMap_line hplain], hheaders⟩

/-- In the reports of outcomes the lines that are not set in are the headers, one for each outcome
and in order, and reports with the same text are of the same names and kinds. -/
theorem headers_cannot_be_forged {outcomes : List Outcome}
    (h : ∀ outcome ∈ outcomes, outcome.OneLined) :
    (∃ lines, Text.pieces (transcript outcomes).toList = lines ++ [[]] ∧
      lines.filter (fun line => !isSetIn line) =
        outcomes.map fun outcome => headerLine outcome.name outcome.verdict.kind) ∧
    ∀ others : List Outcome, (∀ outcome ∈ others, outcome.OneLined) →
      transcript others = transcript outcomes →
      others.map (fun outcome => (outcome.name, outcome.verdict.kind)) =
        outcomes.map fun outcome => (outcome.name, outcome.verdict.kind) := by
  obtain ⟨lines, hpieces, hheaders⟩ := pieces_transcript h
  refine ⟨⟨lines, hpieces, hheaders⟩, ?_⟩
  intro others hothers htext
  obtain ⟨lines', hpieces', hheaders'⟩ := pieces_transcript hothers
  rw [htext, hpieces, List.append_cancel_right_eq] at hpieces'
  rw [← hpieces', hheaders] at hheaders'
  have hinjective : Function.Injective fun pair : String × Kind => headerLine pair.1 pair.2 :=
    fun _ _ heq => Prod.ext_iff.mpr (headerLine_injective heq)
  apply List.map_injective_iff.mpr hinjective
  rw [List.map_map, List.map_map]
  exact hheaders'.symm

/-- Names, diagnostics and outputs that look like headers. -/
def disguisedOutcomes : List Outcome :=
  [⟨"a (LinkError)", .pass⟩,
    ⟨"b", .failed .compile
      ⟨.process .compile, "cc b", .exited 1, [10, 0xE2, 0x9C, 0x93, 32, 99, 13, 10], none⟩⟩,
    ⟨"✗ d", .mismatch [10, 0xE2, 0x9C, 0x93, 32, 101] [0xE2, 10, 10]⟩]

theorem disguisedOutcomes_have_three_headers :
    (∀ outcome ∈ disguisedOutcomes, outcome.OneLined) ∧
    ∃ lines, Text.pieces (transcript disguisedOutcomes).toList = lines ++ [[]] ∧
      lines.filter (fun line => !isSetIn line) =
        ["✓ a (LinkError)".toList, "✗ b (CompilationError)".toList,
          "✗ ✗ d (OutputMismatch)".toList] := by
  have h : ∀ outcome ∈ disguisedOutcomes, outcome.OneLined := by decide
  have hheaders : (disguisedOutcomes.map fun outcome =>
      headerLine outcome.name outcome.verdict.kind) =
        ["✓ a (LinkError)".toList, "✗ b (CompilationError)".toList,
          "✗ ✗ d (OutputMismatch)".toList] := by decide
  rw [← hheaders]
  exact ⟨h, (headers_cannot_be_forged h).1⟩

end Report

end Crosscheck
