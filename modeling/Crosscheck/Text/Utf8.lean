/-! # Bytes and text

Decoding follows the table of well-formed UTF-8 byte sequences: a lead byte fixes how many bytes
follow and which values the first of them may take. A byte that does not continue the sequence in
progress ends it, and the part read so far counts as one defect. `decodeLossy` writes one
replacement character for each defect, `decode?` refuses the bytes.
-/

namespace Crosscheck

/-- A byte string, such as the content of a file or the output of a process. -/
abbrev Bytes := List UInt8

namespace Utf8

/-- A sequence in progress: the value of the bits read, the number of bytes owed, and the least and
greatest value of the next byte. -/
structure Open where
  value : Nat
  owed : Nat
  low : Nat
  high : Nat
  deriving DecidableEq, Repr

/-- What a byte means at the start of a character. -/
inductive Lead where
  | whole (c : Char)
  | opens (seq : Open)
  | bad

def lead (b : Nat) : Lead :=
  if b < 0x80 then .whole (Char.ofNat b)
  else if b < 0xC2 then .bad
  else if b < 0xE0 then .opens ⟨b - 0xC0, 1, 0x80, 0xBF⟩
  else if b = 0xE0 then .opens ⟨0, 2, 0xA0, 0xBF⟩
  else if b = 0xED then .opens ⟨0xD, 2, 0x80, 0x9F⟩
  else if b < 0xF0 then .opens ⟨b - 0xE0, 2, 0x80, 0xBF⟩
  else if b = 0xF0 then .opens ⟨0, 3, 0x90, 0xBF⟩
  else if b < 0xF4 then .opens ⟨b - 0xF0, 3, 0x80, 0xBF⟩
  else if b = 0xF4 then .opens ⟨4, 3, 0x80, 0x8F⟩
  else .bad

/-- The character that stands for a defect. -/
def replacement : Char := '�'

/-- Characters and defects of a byte string, read with a sequence in progress or between two. A
defect is `none`. -/
def units : Option Open → Bytes → List (Option Char)
  | none, [] => []
  | some _, [] => [none]
  | none, b :: rest =>
    match lead b.toNat with
    | .whole c => some c :: units none rest
    | .opens seq => units (some seq) rest
    | .bad => none :: units none rest
  | some seq, b :: rest =>
    if seq.low ≤ b.toNat ∧ b.toNat ≤ seq.high then
      let value := seq.value * 64 + (b.toNat - 0x80)
      if seq.owed ≤ 1 then some (Char.ofNat value) :: units none rest
      else units (some ⟨value, seq.owed - 1, 0x80, 0xBF⟩) rest
    else
      match lead b.toNat with
      | .whole c => none :: some c :: units none rest
      | .opens next => none :: units (some next) rest
      | .bad => none :: none :: units none rest

/-- The text of a byte string, with one replacement character for each defect. -/
def decodeLossy (bytes : Bytes) : List Char :=
  (units none bytes).map (·.getD replacement)

/-- The text of a byte string that has no defect. -/
def decode? (bytes : Bytes) : Option (List Char) :=
  (units none bytes).mapM id

def encode (text : String) : Bytes :=
  text.toUTF8.toList

end Utf8

end Crosscheck
