import Crosscheck.Tally
import Crosscheck.Verdict

/-! # What is counted

A tally looks at the kinds of the verdicts and at nothing else, and it has failures exactly if one of
the verdicts is not a pass.
-/

namespace Crosscheck

theorem Verdict.isPass_eq (verdict : Verdict) : verdict.isPass = decide (verdict.kind = .pass) := by
  cases verdict with
  | pass => rfl
  | failed step _ => cases step <;> rfl
  | mismatch _ _ => rfl

namespace Tally

theorem record_eq_of_kind (tally : Tally) {verdict verdict' : Verdict}
    (h : verdict.kind = verdict'.kind) : tally.record verdict = tally.record verdict' := by
  unfold record
  rw [verdict.isPass_eq, verdict'.isPass_eq, h]

theorem ofVerdicts_eq_of_kinds {verdicts verdicts' : List Verdict}
    (h : verdicts.map Verdict.kind = verdicts'.map Verdict.kind) :
    ofVerdicts verdicts = ofVerdicts verdicts' := by
  unfold ofVerdicts
  generalize ({} : Tally) = tally
  induction verdicts generalizing verdicts' tally with
  | nil =>
    rw [List.map_eq_nil_iff.mp h.symm]
  | cons verdict verdicts ih =>
    obtain ⟨verdict', later, rfl, hkind, hlater⟩ := List.map_eq_cons_iff.mp h.symm
    rw [List.foldl_cons, List.foldl_cons, record_eq_of_kind tally hkind, ih hlater.symm]

theorem failed_foldl_record (tally : Tally) (verdicts : List Verdict) :
    (verdicts.foldl record tally).failed =
      tally.failed + verdicts.countP fun verdict => !verdict.isPass := by
  induction verdicts generalizing tally with
  | nil => rfl
  | cons verdict verdicts ih =>
    rw [List.foldl_cons, ih, List.countP_cons]
    cases hv : verdict.isPass with
    | true => simp [record, hv]
    | false =>
      simp only [record, hv, Bool.false_eq_true, if_false, Bool.not_false, if_true]
      omega

theorem hasFailures_ofVerdicts (verdicts : List Verdict) :
    (ofVerdicts verdicts).hasFailures = verdicts.any fun verdict => !verdict.isPass := by
  have hfailed := failed_foldl_record {} verdicts
  rw [Bool.eq_iff_iff, List.any_eq_true, ← List.countP_pos_iff]
  simp [hasFailures, ofVerdicts, hfailed]

end Tally

end Crosscheck
