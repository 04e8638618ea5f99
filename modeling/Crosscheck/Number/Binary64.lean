/-! # Double-precision numbers as exact quantities

A finite double is a mantissa times a power of two. Rounding it to a number of decimal places is done
on that exact value.
-/

namespace Crosscheck.Number

/-- A finite number `± mantissa · 2 ^ exponent`. -/
structure Binary64 where
  negative : Bool
  mantissa : Nat
  exponent : Int
  deriving DecidableEq, Repr

namespace Binary64

/-- The value of a bit pattern that is neither infinite nor undefined. -/
def ofBits? (bits : Nat) : Option Binary64 :=
  let negative := bits / Nat.pow 2 63 = 1
  let exponent : Nat := bits / Nat.pow 2 52 % 2048
  let fraction := bits % Nat.pow 2 52
  if exponent = 2047 then none
  else if exponent = 0 then some ⟨negative, fraction, -1074⟩
  else some ⟨negative, Nat.pow 2 52 + fraction, (exponent : Int) - 1075⟩

def ofFloat? (x : Float) : Option Binary64 :=
  ofBits? x.toBits.toNat

/-- A quotient rounded to a whole number; a half goes to the even neighbour. -/
def roundDiv (num den : Nat) : Nat :=
  let q := num / den
  let r := num % den
  if 2 * r < den then q
  else if den < 2 * r then q + 1
  else if q % 2 = 0 then q else q + 1

/-- The absolute value times `scale`, rounded to a whole number. -/
def scaled (x : Binary64) (scale : Nat) : Nat :=
  if 0 ≤ x.exponent then x.mantissa * scale * Nat.pow 2 x.exponent.toNat
  else roundDiv (x.mantissa * scale) (Nat.pow 2 (-x.exponent).toNat)

/-- The number with one decimal place. -/
def oneDecimal (x : Binary64) : String :=
  let tenths := x.scaled 10
  let text := toString (tenths / 10) ++ "." ++ toString (tenths % 10)
  if x.negative then "-" ++ text else text

end Binary64

end Crosscheck.Number
