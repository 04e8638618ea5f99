import Crosscheck.Shell.Numeral

/-! # Amounts

A whole number that may have a unit: a letter for a power of 1024, or of 1000 if a `B` follows it.
-/

namespace Crosscheck.Shell.Amount

inductive Fault where
  | malformed
  | tooLarge
  deriving DecidableEq, Repr

/-- The power that the letter of a unit stands for. -/
def power? : Char → Option Nat
  | 'k' | 'K' => some 1
  | 'm' | 'M' => some 2
  | 'G' => some 3
  | 'T' => some 4
  | 'P' => some 5
  | 'E' => some 6
  | 'Z' => some 7
  | 'Y' => some 8
  | 'R' => some 9
  | 'Q' => some 10
  | _ => none

/-- What a unit multiplies with. -/
def unit? (text : List Char) : Option Nat :=
  match text with
  | [] => some 1
  | ['b'] => some 512
  | letter :: rest =>
    match power? letter, rest with
    | some power, [] | some power, ['i', 'B'] => some (Nat.pow 1024 power)
    | some power, ['B'] | some power, ['D'] => some (Nat.pow 1000 power)
    | _, _ => none

/-- The amount that a text stands for. A unit alone stands for one of it. -/
def ofText (text : String) : Except Fault Nat :=
  let body := text.toList.dropWhile Numeral.isSpace
  let signless :=
    match body with
    | '+' :: rest => rest
    | rest => rest
  let digits := signless.takeWhile Char.isDigit
  let (number, rest) :=
    if digits.isEmpty then (1, text.toList)
    else ((Number.natural? 10 digits).getD 0, signless.drop digits.length)
  if digits.isEmpty && rest.isEmpty then .error .malformed
  else
    match unit? rest with
    | none => .error .malformed
    | some unit => if UInt64.size ≤ number * unit then .error .tooLarge else .ok (number * unit)

end Crosscheck.Shell.Amount
