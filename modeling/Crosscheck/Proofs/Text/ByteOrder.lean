import Crosscheck.Text.Utf8

/-! # Texts and their bytes are ordered alike

The bytes of a text are those of its characters one after another. A lesser character has lesser
bytes, and they differ from those of a greater one before either ends, so nothing that follows can
change the order.
-/

namespace Crosscheck.Utf8

theorem toList_loop_eq (bytes : ByteArray) (i : Nat) (taken : List UInt8) :
    ByteArray.toList.loop bytes i taken = taken.reverse ++ bytes.data.toList.drop i := by
  fun_induction ByteArray.toList.loop bytes i taken with
  | case1 i taken h ih =>
    have hi : i < bytes.data.toList.length := by simpa using h
    rw [ih, List.drop_eq_getElem_cons hi]
    simp [ByteArray.get!, h]
  | case2 i taken h =>
    have hi : bytes.data.toList.length ≤ i := by simpa using h
    rw [List.drop_eq_nil_of_le hi, List.append_nil]

theorem encode_eq (text : String) : encode text = text.toList.flatMap String.utf8EncodeChar := by
  have hbytes : text.toUTF8 = (text.toList.flatMap String.utf8EncodeChar).toByteArray := by
    rw [String.toUTF8_eq_toByteArray, ← String.utf8Encode_toList]
    rfl
  unfold encode ByteArray.toList
  rw [toList_loop_eq, hbytes, List.toList_data_toByteArray]
  rfl

/-- Characters are told apart by their bytes in the order of their numbers. The cases are the
lengths of the two encodings, one to four bytes. -/
theorem utf8EncodeChar_append_lt {c d : Char} (h : c < d) (xs ys : List UInt8) :
    String.utf8EncodeChar c ++ xs < String.utf8EncodeChar d ++ ys := by
  have hval : c.val.toNat < d.val.toNat := h
  have hd : d.val.toNat < 0x110000 := by
    rcases d.valid with hlow | hhigh
    · exact Nat.lt_trans hlow (by decide)
    · exact hhigh.2
  -- The digits to the base 64 are taken off one at a time.
  have htwo : ∀ n : Nat, n / 4096 = n / 64 / 64 := fun n => (Nat.div_div_eq_div_mul n 64 64).symm
  have hthree : ∀ n : Nat, n / 262144 = n / 64 / 64 / 64 := by
    intro n
    rw [← htwo, Nat.div_div_eq_div_mul]
  unfold String.utf8EncodeChar
  generalize c.val.toNat = v at hval
  generalize d.val.toNat = w at hval hd
  dsimp only
  repeat' split
  all_goals
    simp only [List.cons_append, List.cons_lt_cons_iff, UInt8.lt_iff_toNat_lt, ← UInt8.toNat_inj,
      UInt8.toNat_ofNat', htwo, hthree]
    omega

theorem encode_lt_of_lt {a b : String} (h : a < b) : encode a < encode b := by
  have hchars : a.toList < b.toList := h
  rw [encode_eq, encode_eq]
  generalize a.toList = xs at hchars
  generalize b.toList = ys at hchars
  induction xs generalizing ys with
  | nil =>
    cases ys with
    | nil => exact absurd hchars (List.lt_irrefl [])
    | cons y ys =>
      have hsome := String.utf8EncodeChar_ne_nil (c := y)
      obtain ⟨first, rest, hbytes⟩ := List.exists_cons_of_ne_nil hsome
      rw [List.flatMap_nil, List.flatMap_cons, hbytes, List.cons_append]
      exact List.nil_lt_cons first _
  | cons x xs ih =>
    cases ys with
    | nil => exact absurd hchars (List.not_lt_nil _)
    | cons y ys =>
      rw [List.flatMap_cons, List.flatMap_cons]
      rcases List.cons_lt_cons_iff.mp hchars with hlt | ⟨rfl, hrest⟩
      · exact utf8EncodeChar_append_lt hlt _ _
      · exact List.append_left_lt (ih ys hrest)

end Crosscheck.Utf8
