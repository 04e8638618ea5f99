import Crosscheck.Text.Escaped

/-! # What an escaped byte string is made of

Whatever the bytes, they are written in printable ASCII, so a written byte string is on one line.
-/

namespace Crosscheck.Text

theorem toNat_ofNat {n : Nat} (h : n < 128) : (Char.ofNat n).toNat = n := by
  have hvalid : n.isValidChar := by
    left
    omega
  unfold Char.ofNat
  rw [dif_pos hvalid]
  rfl

theorem printable_hexDigit {n : Nat} (h : n < 16) :
    32 ≤ (hexDigit n).toNat ∧ (hexDigit n).toNat ≤ 126 := by
  unfold hexDigit
  split
  · have hdigit : (Char.ofNat (48 + n)).toNat = 48 + n := toNat_ofNat (by omega)
    omega
  · have hletter : (Char.ofNat (87 + n)).toNat = 87 + n := toNat_ofNat (by omega)
    omega

theorem printable_of_mem_escapeByte (b : UInt8) :
    ∀ c ∈ escapeByte b, 32 ≤ c.toNat ∧ c.toNat ≤ 126 := by
  have hbyte : b.toNat < 256 := b.toNat_lt
  unfold escapeByte
  split
  case h_7 =>
    -- Only the last row of the table says anything about more than one byte.
    split
    · have hself : (Char.ofNat b.toNat).toNat = b.toNat := toNat_ofNat (by omega)
      intro c hc
      rw [List.mem_singleton] at hc
      subst hc
      omega
    · have hhigh := printable_hexDigit (n := b.toNat / 16) (by omega)
      have hlow := printable_hexDigit (n := b.toNat % 16) (by omega)
      simp only [List.forall_mem_cons, List.not_mem_nil, false_imp_iff, implies_true, and_true]
      exact ⟨by decide, by decide, hhigh, hlow⟩
  all_goals
    simp only [List.forall_mem_cons, List.not_mem_nil, false_imp_iff, implies_true, and_true]
    decide

theorem printable_of_mem_escape {bytes : Bytes} {c : Char} (h : c ∈ escape bytes) :
    32 ≤ c.toNat ∧ c.toNat ≤ 126 := by
  unfold escape at h
  rw [List.mem_cons, List.mem_append, List.mem_flatMap, List.mem_singleton] at h
  rcases h with rfl | ⟨b, -, hc⟩ | rfl
  · decide
  · exact printable_of_mem_escapeByte b c hc
  · decide

theorem newline_notMem_escape (bytes : Bytes) : '\n' ∉ escape bytes := by
  intro h
  have hprintable := printable_of_mem_escape h
  have hnewline : '\n'.toNat = 10 := rfl
  omega

end Crosscheck.Text
