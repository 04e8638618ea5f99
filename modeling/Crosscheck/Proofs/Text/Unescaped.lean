import Crosscheck.Proofs.Text.Escaped
import Mathlib.Algebra.Ring.Parity
import Mathlib.Data.List.Basic

/-! # Reading an escaped byte string

Each byte is written as a word of one, two or four characters. A word that is longer than one
character starts with a backslash, and what follows it says which of the two it is, so the words can
be read off from the left and no two byte strings are written alike. A word ends in a backslash only
if it is the one of the backslash, which has two of them; so the backslashes before a word are even
in number, and a quote between the outer ones, which is the end of a word, has an odd number of them
in front.
-/

namespace Crosscheck.Text

/-! ## The words of bytes -/

/-- The byte that a letter behind a backslash stands for. Quotes and backslashes are themselves. -/
def letterByte : Char → UInt8
  | 't' => 9
  | 'n' => 10
  | 'r' => 13
  | c => UInt8.ofNat c.toNat

def hexValue (digit : Char) : Nat :=
  if digit.toNat < 58 then digit.toNat - 48 else digit.toNat - 87

theorem hexValue_hexDigit : ∀ n < 16, hexValue (hexDigit n) = n := by
  decide

theorem hexDigit_ne : ∀ n < 16, hexDigit n ≠ '"' ∧ hexDigit n ≠ '\\' := by
  decide

/-- The ways a byte can be written: as itself, as a letter behind a backslash, or in two digits. -/
inductive Spelling (b : UInt8) : List Char → Prop
  | plain {c : Char} (h : UInt8.ofNat c.toNat = b) (hquote : c ≠ '"') (hback : c ≠ '\\') :
      Spelling b [c]
  | letter {c : Char} (h : letterByte c = b) (hx : c ≠ 'x') : Spelling b ['\\', c]
  | digits : Spelling b ['\\', 'x', hexDigit (b.toNat / 16), hexDigit (b.toNat % 16)]

theorem escapeByte_spelling (b : UInt8) : Spelling b (escapeByte b) := by
  have hletter : ∀ {n : Nat} {c : Char}, b.toNat = n → (letterByte c).toNat = n → c ≠ 'x' →
      Spelling b ['\\', c] :=
    fun hb hc hx => .letter (UInt8.toNat_inj.mp (hc.trans hb.symm)) hx
  unfold escapeByte
  split
  case h_7 hquote _ hback =>
    split
    · have hself : (Char.ofNat b.toNat).toNat = b.toNat := toNat_ofNat (by omega)
      refine .plain ?_ (fun heq => hquote ?_) (fun heq => hback ?_)
      · rw [hself, UInt8.ofNat_toNat]
      · rw [← hself, heq]
        rfl
      · rw [← hself, heq]
        rfl
    · exact .digits
  all_goals
    next hb => exact hletter hb rfl (by decide)

/-! ## Reading the bytes back -/

/-- The bytes that are written between the quotes. -/
def unescapeChars : List Char → Bytes
  | '\\' :: 'x' :: high :: low :: rest =>
    UInt8.ofNat (hexValue high * 16 + hexValue low) :: unescapeChars rest
  | '\\' :: c :: rest => letterByte c :: unescapeChars rest
  | c :: rest => UInt8.ofNat c.toNat :: unescapeChars rest
  | [] => []

/-- The bytes of a written byte string. -/
def unescape (text : List Char) : Bytes :=
  unescapeChars text.tail.dropLast

theorem Spelling.unescapeChars_append {b : UInt8} {word : List Char} (h : Spelling b word)
    (rest : List Char) : unescapeChars (word ++ rest) = b :: unescapeChars rest := by
  cases h with
  | plain hc _ hback => simp [unescapeChars, hback, hc]
  | letter hc hx => simp [unescapeChars, hx, hc]
  | digits =>
    have hbyte : b.toNat < 256 := b.toNat_lt
    have hhigh := hexValue_hexDigit (b.toNat / 16) (by omega)
    have hlow := hexValue_hexDigit (b.toNat % 16) (by omega)
    simp only [List.cons_append, List.nil_append, unescapeChars, hhigh, hlow]
    rw [Nat.div_add_mod', UInt8.ofNat_toNat]

theorem unescapeChars_flatMap (bytes : Bytes) :
    unescapeChars (bytes.flatMap escapeByte) = bytes := by
  induction bytes with
  | nil => rfl
  | cons b bytes ih => rw [List.flatMap_cons, (escapeByte_spelling b).unescapeChars_append, ih]

theorem unescape_escape (bytes : Bytes) : unescape (escape bytes) = bytes := by
  unfold unescape escape
  rw [List.tail_cons, List.dropLast_concat, unescapeChars_flatMap]

theorem escape_injective : Function.Injective escape :=
  Function.LeftInverse.injective unescape_escape

/-! ## Quotes inside -/

/-- The number of backslashes that a text ends with. -/
def backslashes (text : List Char) : Nat :=
  (text.reverse.takeWhile (· = '\\')).length

theorem backslashes_concat (text : List Char) (c : Char) :
    backslashes (text ++ [c]) = if c = '\\' then backslashes text + 1 else 0 := by
  unfold backslashes
  rw [List.reverse_append, List.reverse_singleton, List.singleton_append, List.takeWhile_cons]
  by_cases h : c = '\\'
  · simp [h]
  · simp [h]

/-- A byte ends in a backslash only if it is one, and then there are two of them. -/
theorem Spelling.even_backslashes {b : UInt8} {word text : List Char} (h : Spelling b word)
    (ht : Even (backslashes text)) : Even (backslashes (text ++ word)) := by
  cases h with
  | plain _ _ hback => simp [backslashes_concat, hback]
  | @letter c _ _ =>
    have hsplit : text ++ ['\\', c] = text ++ ['\\'] ++ [c] := by simp
    rw [hsplit, backslashes_concat, backslashes_concat, if_pos rfl]
    split
    · exact ht.add (by decide : Even 2)
    · exact Even.zero
  | digits =>
    have hlow : hexDigit (b.toNat % 16) ≠ '\\' := (hexDigit_ne _ (by omega)).2
    have hsplit : text ++ ['\\', 'x', hexDigit (b.toNat / 16), hexDigit (b.toNat % 16)] =
        text ++ ['\\', 'x', hexDigit (b.toNat / 16)] ++ [hexDigit (b.toNat % 16)] := by simp
    rw [hsplit, backslashes_concat, if_neg hlow]
    exact Even.zero

theorem even_backslashes_flatMap {text : List Char} (ht : Even (backslashes text)) (bytes : Bytes) :
    Even (backslashes (text ++ bytes.flatMap escapeByte)) := by
  induction bytes generalizing text with
  | nil => simpa using ht
  | cons b bytes ih =>
    rw [List.flatMap_cons, ← List.append_assoc]
    exact ih ((escapeByte_spelling b).even_backslashes ht)

/-- The only quote in the word of a byte stands behind a backslash, at its end. -/
theorem Spelling.of_quote {b : UInt8} {word front back : List Char} (h : Spelling b word)
    (heq : word = front ++ '"' :: back) : front = ['\\'] ∧ back = [] := by
  have hmem : '"' ∈ word := by simp [heq]
  cases h with
  | plain _ hquote _ => exact absurd (List.mem_singleton.mp hmem).symm hquote
  | letter _ _ =>
    obtain _ | ⟨first, _ | ⟨second, front⟩⟩ := front
    · simp at heq
    · simp only [List.cons_append, List.nil_append, List.cons.injEq] at heq
      exact ⟨by rw [← heq.1], heq.2.2.symm⟩
    · simp at heq
  | digits =>
    have hhigh := (hexDigit_ne (b.toNat / 16) (by have := b.toNat_lt; omega)).1
    have hlow := (hexDigit_ne (b.toNat % 16) (by omega)).1
    simp [Ne.symm hhigh, Ne.symm hlow] at hmem

/-- What stands before a quote between written bytes is written bytes and a backslash. -/
theorem front_of_quote {bytes : Bytes} {front back : List Char}
    (h : bytes.flatMap escapeByte = front ++ '"' :: back) :
    ∃ earlier : Bytes, front = earlier.flatMap escapeByte ++ ['\\'] := by
  induction bytes generalizing front with
  | nil => simp at h
  | cons b bytes ih =>
    rw [List.flatMap_cons] at h
    rcases List.append_eq_append_iff.mp h with ⟨more, rfl, hmore⟩ | ⟨part, hword, hpart⟩
    · obtain ⟨earlier, rfl⟩ := ih hmore
      exact ⟨b :: earlier, by simp⟩
    · cases part with
      | nil =>
        -- The quote would be the first character behind this byte.
        have hfirst : bytes.flatMap escapeByte = [] ++ '"' :: back := hpart.symm
        obtain ⟨earlier, hnil⟩ := ih hfirst
        simp at hnil
      | cons quote part =>
        obtain ⟨rfl, -⟩ := List.cons.inj hpart
        obtain ⟨rfl, -⟩ := (escapeByte_spelling b).of_quote hword
        exact ⟨[], rfl⟩

theorem odd_backslashes_of_quote {bytes : Bytes} {front back : List Char}
    (h : escape bytes = front ++ '"' :: back) (hfront : front ≠ []) (hback : back ≠ []) :
    Odd (backslashes front) := by
  obtain ⟨first, front, rfl⟩ := List.exists_cons_of_ne_nil hfront
  obtain ⟨back, last, rfl⟩ := (List.eq_nil_or_concat' back).resolve_left hback
  rw [escape, List.cons_append, List.cons.injEq, ← List.cons_append, ← List.append_assoc] at h
  obtain ⟨rfl, hinner⟩ := h
  obtain ⟨hbody, -⟩ := List.append_inj' hinner rfl
  obtain ⟨earlier, rfl⟩ := front_of_quote hbody
  have heven : Even (backslashes ('"' :: earlier.flatMap escapeByte)) := by
    have hquote : Even (backslashes ['"']) := Even.zero
    exact even_backslashes_flatMap hquote earlier
  rw [← List.cons_append, backslashes_concat, if_pos rfl]
  exact heven.add_one

end Crosscheck.Text
