import Crosscheck.Text.Utf8

/-! # Byte strings written in printable ASCII

`escape` writes any byte string between double quotes. Printable bytes stand for themselves, except
quotes and the backslash; the common control characters have a letter, and all other bytes are two
hexadecimal digits.
-/

namespace Crosscheck.Text

/-- A hexadecimal digit, in lower case. -/
def hexDigit (n : Nat) : Char :=
  if n < 10 then Char.ofNat (48 + n) else Char.ofNat (87 + n)

/-- One byte as the characters that stand for it. -/
def escapeByte (b : UInt8) : List Char :=
  match b.toNat with
  | 9 => ['\\', 't']
  | 10 => ['\\', 'n']
  | 13 => ['\\', 'r']
  | 34 => ['\\', '"']
  | 39 => ['\\', '\x27']
  | 92 => ['\\', '\\']
  | n =>
    if 32 ≤ n ∧ n < 127 then [Char.ofNat n]
    else ['\\', 'x', hexDigit (n / 16), hexDigit (n % 16)]

/-- A byte string between double quotes. -/
def escape (bytes : Bytes) : List Char :=
  '"' :: (bytes.flatMap escapeByte ++ ['"'])

end Crosscheck.Text
