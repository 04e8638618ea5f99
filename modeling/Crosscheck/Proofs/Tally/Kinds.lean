import Crosscheck.Proofs.Tally
import Mathlib.Algebra.BigOperators.Group.List.Lemmas
import Mathlib.Algebra.GroupWithZero.Nat

/-! # The failures of a tally by kind

The table of a tally has one entry for each kind of failure that was recorded, in the order in which
they were first seen, and the entry gives the number of times. Recording a failure of a kind that is
there raises its entry, any other failure is put at the end, and both keep this. So the order of the
verdicts is seen in the order of the table and in nothing else.
-/

namespace Crosscheck

/-- The kinds of the failures among verdicts, in order. -/
def Verdict.failureKinds (verdicts : List Verdict) : List Kind :=
  (verdicts.map Verdict.kind).filter (· ≠ .pass)

theorem Verdict.kind_eq_pass_iff {verdict : Verdict} : verdict.kind = .pass ↔ verdict = .pass := by
  cases verdict with
  | pass => simp [kind]
  | failed step _ => cases step <;> simp [kind, Step.kind]
  | mismatch _ _ => simp [kind]

theorem Verdict.length_failureKinds (verdicts : List Verdict) :
    (failureKinds verdicts).length = verdicts.countP (· ≠ .pass) := by
  unfold failureKinds
  rw [← List.countP_eq_length_filter, List.countP_map]
  apply List.countP_congr
  simp [Verdict.kind_eq_pass_iff]

theorem Verdict.failureKinds_append (verdicts more : List Verdict) :
    failureKinds (verdicts ++ more) = failureKinds verdicts ++ failureKinds more := by
  simp [failureKinds]

namespace Tally

/-! ## Kinds in the order they are seen -/

/-- The kinds among others, each of them once and in the order in which they are first seen. -/
structure FirstSeen (keys kinds : List Kind) : Prop where
  mem : ∀ kind, kind ∈ keys ↔ kind ∈ kinds
  ordered : keys.Pairwise fun a b => kinds.idxOf a < kinds.idxOf b

/-- The kinds with the number of times each of them occurs. -/
def tableOf (keys kinds : List Kind) : List (Kind × Nat) :=
  keys.map fun kind => (kind, kinds.count kind)

namespace FirstSeen

variable {keys kinds : List Kind} {kind : Kind}

theorem nodup (h : FirstSeen keys kinds) : keys.Nodup := by
  refine h.ordered.imp fun {a b} hlt heq => ?_
  rw [heq] at hlt
  exact Nat.lt_irrefl _ hlt

theorem ordered_append (h : FirstSeen keys kinds) (more : List Kind) :
    keys.Pairwise fun a b => (kinds ++ more).idxOf a < (kinds ++ more).idxOf b := by
  refine h.ordered.imp_of_mem fun ha hb hlt => ?_
  rw [List.idxOf_append_of_mem ((h.mem _).mp ha), List.idxOf_append_of_mem ((h.mem _).mp hb)]
  exact hlt

theorem again (h : FirstSeen keys kinds) (hk : kind ∈ keys) : FirstSeen keys (kinds ++ [kind]) where
  mem other := by
    have hold : other = kind → other ∈ kinds := fun heq => heq ▸ (h.mem kind).mp hk
    rw [List.mem_append, List.mem_singleton, h.mem, or_iff_left_of_imp hold]
  ordered := h.ordered_append [kind]

theorem new (h : FirstSeen keys kinds) (hk : kind ∉ keys) :
    FirstSeen (keys ++ [kind]) (kinds ++ [kind]) where
  mem other := by simp [h.mem]
  ordered := by
    have hnew : kind ∉ kinds := fun hmem => hk ((h.mem kind).mpr hmem)
    refine List.pairwise_append.mpr ⟨h.ordered_append [kind], List.pairwise_singleton _ _, ?_⟩
    intro earlier hearlier last hlast
    rw [List.mem_singleton] at hlast
    subst hlast
    have hseen : earlier ∈ kinds := (h.mem earlier).mp hearlier
    rw [List.idxOf_append_of_mem hseen, List.idxOf_append_of_notMem hnew]
    exact Nat.lt_add_right _ (List.idxOf_lt_length_of_mem hseen)

theorem perm_of_mem_iff {others : List Kind} (h : FirstSeen keys kinds) (hnodup : others.Nodup)
    (hmem : ∀ kind, kind ∈ others ↔ kind ∈ kinds) : others.Perm keys := by
  rw [List.perm_ext_iff_of_nodup hnodup h.nodup]
  intro kind
  rw [hmem, h.mem]

end FirstSeen

/-! ## The table -/

section Table

variable {keys kinds : List Kind} {kind : Kind}

theorem count_append_singleton (kinds : List Kind) (kind other : Kind) :
    (kinds ++ [kind]).count other = kinds.count other + if kind = other then 1 else 0 := by
  simp [List.count_append, List.count_singleton]

theorem tableOf_append_of_notMem (h : kind ∉ keys) :
    tableOf keys (kinds ++ [kind]) = tableOf keys kinds := by
  refine List.map_congr_left fun other hother => ?_
  have hne : kind ≠ other := fun heq => h (heq ▸ hother)
  rw [count_append_singleton, if_neg hne]
  rfl

theorem bump_tableOf_of_mem (hnodup : keys.Nodup) (h : kind ∈ keys) :
    bump kind (tableOf keys kinds) = tableOf keys (kinds ++ [kind]) := by
  induction keys with
  | nil => cases h
  | cons key keys ih =>
    obtain ⟨hkey, hnodup⟩ := List.nodup_cons.mp hnodup
    have hrest := count_append_singleton kinds kind key
    by_cases heq : key = kind
    · subst heq
      have hsame : tableOf keys (kinds ++ [key]) = tableOf keys kinds :=
        tableOf_append_of_notMem hkey
      unfold tableOf at hsame ⊢
      rw [List.map_cons, List.map_cons, hsame, hrest]
      simp [bump]
    · have hmem : kind ∈ keys := (List.mem_cons.mp h).resolve_left fun he => heq he.symm
      have hbump := ih hnodup hmem
      unfold tableOf at hbump ⊢
      rw [List.map_cons, List.map_cons, ← hbump, hrest]
      simp [bump, heq, Ne.symm heq]

theorem bump_of_notMem {table : List (Kind × Nat)} (h : kind ∉ table.map Prod.fst) :
    bump kind table = table ++ [(kind, 1)] := by
  induction table with
  | nil => rfl
  | cons entry table ih =>
    simp only [List.map_cons, List.mem_cons, not_or] at h
    simp [bump, Ne.symm h.1, ih h.2]

theorem bump_tableOf_of_notMem (h : kind ∉ keys) (hnew : kind ∉ kinds) :
    bump kind (tableOf keys kinds) = tableOf (keys ++ [kind]) (kinds ++ [kind]) := by
  have hkeys : kind ∉ (tableOf keys kinds).map Prod.fst := by
    simpa [tableOf, Function.comp_def] using h
  rw [bump_of_notMem hkeys, ← tableOf_append_of_notMem h]
  simp [tableOf, List.count_eq_zero_of_not_mem hnew]

/-- One more failure: a kind that is there is counted once more, another one is put at the end. -/
theorem FirstSeen.bump (h : FirstSeen keys kinds) (kind : Kind) :
    ∃ keys', FirstSeen keys' (kinds ++ [kind]) ∧
      Tally.bump kind (tableOf keys kinds) = tableOf keys' (kinds ++ [kind]) := by
  by_cases hk : kind ∈ keys
  · exact ⟨keys, h.again hk, bump_tableOf_of_mem h.nodup hk⟩
  · have hnew : kind ∉ kinds := fun hmem => hk ((h.mem kind).mpr hmem)
    exact ⟨keys ++ [kind], h.new hk, bump_tableOf_of_notMem hk hnew⟩

theorem FirstSeen.sum_tableOf (h : FirstSeen keys kinds) :
    ((tableOf keys kinds).map Prod.snd).sum = kinds.length := by
  have hperm : kinds.dedup.Perm keys :=
    h.perm_of_mem_iff (List.nodup_dedup kinds) fun _ => List.mem_dedup
  calc ((tableOf keys kinds).map Prod.snd).sum
      = (keys.map fun kind => kinds.count kind).sum := by simp [tableOf, Function.comp_def]
    _ = (kinds.dedup.map fun kind => kinds.count kind).sum := ((hperm.map _).sum_eq).symm
    _ = kinds.length := List.sum_map_count_dedup_eq_length kinds

theorem FirstSeen.count_pos (h : FirstSeen keys kinds) :
    ∀ entry ∈ tableOf keys kinds, 0 < entry.2 := by
  intro entry hentry
  obtain ⟨kind, hkind, rfl⟩ := List.mem_map.mp hentry
  exact List.count_pos_iff.mpr ((h.mem kind).mp hkind)

theorem FirstSeen.perm_tableOf {keys' kinds' : List Kind} (h : FirstSeen keys kinds)
    (h' : FirstSeen keys' kinds') (hperm : kinds'.Perm kinds) :
    (tableOf keys' kinds').Perm (tableOf keys kinds) := by
  have hkeys : keys'.Perm keys :=
    h.perm_of_mem_iff h'.nodup fun kind => (h'.mem kind).trans hperm.mem_iff
  have hcount : tableOf keys' kinds' = tableOf keys' kinds :=
    List.map_congr_left fun kind _ => by rw [hperm.count_eq]
  rw [hcount]
  exact hkeys.map _

end Table

/-! ## Recording verdicts -/

/-- What a tally says about the verdicts that were recorded in it. -/
structure Exact (tally : Tally) (verdicts : List Verdict) : Prop where
  passed : tally.passed = verdicts.count .pass
  failed : tally.failed = verdicts.countP (· ≠ .pass)
  byKind : ∃ keys, FirstSeen keys (Verdict.failureKinds verdicts) ∧
    tally.byKind = tableOf keys (Verdict.failureKinds verdicts)

theorem exact_empty : Exact {} [] :=
  ⟨rfl, rfl, [], ⟨fun _ => Iff.rfl, .nil⟩, rfl⟩

theorem Exact.record {tally : Tally} {verdicts : List Verdict} (h : Exact tally verdicts)
    (verdict : Verdict) : Exact (tally.record verdict) (verdicts ++ [verdict]) := by
  have hkinds := Verdict.failureKinds_append verdicts [verdict]
  by_cases hv : verdict = .pass
  · subst hv
    refine ⟨?_, ?_, ?_⟩
    · simp [Tally.record, Verdict.isPass, h.passed]
    · simp [Tally.record, Verdict.isPass, h.failed]
    · rw [hkinds]
      simpa [Tally.record, Verdict.isPass, Verdict.failureKinds, Verdict.kind] using h.byKind
  · have hpass : verdict.isPass = false := by
      rw [verdict.isPass_eq, decide_eq_false_iff_not, Verdict.kind_eq_pass_iff]
      exact hv
    have hone : Verdict.failureKinds [verdict] = [verdict.kind] := by
      simp [Verdict.failureKinds, Verdict.kind_eq_pass_iff, hv]
    obtain ⟨keys, hseen, htable⟩ := h.byKind
    refine ⟨?_, ?_, ?_⟩
    · simp [Tally.record, hpass, h.passed, hv]
    · simp [Tally.record, hpass, h.failed, hv]
    · rw [hkinds, hone]
      simpa [Tally.record, hpass, htable] using hseen.bump verdict.kind

theorem Exact.foldl_record {tally : Tally} {earlier : List Verdict} (h : Exact tally earlier)
    (verdicts : List Verdict) :
    Exact (verdicts.foldl Tally.record tally) (earlier ++ verdicts) := by
  induction verdicts generalizing tally earlier with
  | nil => simpa using h
  | cons verdict verdicts ih => simpa using ih (h.record verdict)

theorem exact_ofVerdicts (verdicts : List Verdict) : Exact (ofVerdicts verdicts) verdicts :=
  exact_empty.foldl_record verdicts

/-- A tally has the numbers of passes and of failures and, for every kind of failure that occurs and
in the order in which they were first seen, how many there are of it. Verdicts in another order give
the same numbers. -/
theorem tally_is_exact (verdicts : List Verdict) :
    (ofVerdicts verdicts).passed = verdicts.count .pass ∧
    (ofVerdicts verdicts).failed = verdicts.countP (· ≠ .pass) ∧
    (ofVerdicts verdicts).total = verdicts.length ∧
    ((ofVerdicts verdicts).hasFailures = true ↔ ∃ verdict ∈ verdicts, verdict ≠ .pass) ∧
    (∃ keys, FirstSeen keys (Verdict.failureKinds verdicts) ∧
      (ofVerdicts verdicts).byKind = tableOf keys (Verdict.failureKinds verdicts)) ∧
    ((ofVerdicts verdicts).byKind.map Prod.snd).sum = (ofVerdicts verdicts).failed ∧
    (∀ entry ∈ (ofVerdicts verdicts).byKind, 0 < entry.2) ∧
    ∀ reordered : List Verdict, reordered.Perm verdicts →
      (ofVerdicts reordered).passed = (ofVerdicts verdicts).passed ∧
      (ofVerdicts reordered).failed = (ofVerdicts verdicts).failed ∧
      (ofVerdicts reordered).byKind.Perm (ofVerdicts verdicts).byKind := by
  have h := exact_ofVerdicts verdicts
  obtain ⟨keys, hseen, htable⟩ := h.byKind
  refine ⟨h.passed, h.failed, ?_, ?_, ⟨keys, hseen, htable⟩, ?_, ?_, ?_⟩
  · have hlength := verdicts.length_eq_countP_add_countP (· == Verdict.pass)
    simp only [beq_iff_eq] at hlength
    rw [total, h.passed, h.failed, hlength]
    rfl
  · simp [hasFailures, h.failed, List.countP_pos_iff]
  · rw [htable, hseen.sum_tableOf, h.failed, Verdict.length_failureKinds]
  · rw [htable]
    exact hseen.count_pos
  · intro reordered hperm
    have h' := exact_ofVerdicts reordered
    obtain ⟨keys', hseen', htable'⟩ := h'.byKind
    refine ⟨?_, ?_, ?_⟩
    · rw [h'.passed, h.passed, hperm.count_eq]
    · rw [h'.failed, h.failed, hperm.countP_eq]
    · rw [htable', htable]
      exact hseen.perm_tableOf hseen' ((hperm.map _).filter _)

def mixedVerdicts : List Verdict :=
  [.mismatch [] [1], .pass, .mismatch [1] [],
    .failed .link ⟨.process .link, "ld", .exited 1, [], none⟩]

/-- From the other end the kinds are seen in another order, with the same numbers. -/
theorem mixedVerdicts_from_both_ends :
    mixedVerdicts.reverse.Perm mixedVerdicts ∧
    (ofVerdicts mixedVerdicts).byKind = [(.outputMismatch, 2), (.linkError, 1)] ∧
    (ofVerdicts mixedVerdicts.reverse).byKind = [(.linkError, 1), (.outputMismatch, 2)] ∧
    (ofVerdicts mixedVerdicts.reverse).byKind.Perm (ofVerdicts mixedVerdicts).byKind := by
  obtain ⟨-, -, -, -, -, -, -, hreordered⟩ := tally_is_exact mixedVerdicts
  have hperm : mixedVerdicts.reverse.Perm mixedVerdicts := List.reverse_perm mixedVerdicts
  exact ⟨hperm, rfl, rfl, (hreordered _ hperm).2.2⟩

end Tally

end Crosscheck
