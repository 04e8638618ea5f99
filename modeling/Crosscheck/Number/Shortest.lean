import Crosscheck.Number.Binary64

/-! # Shortest decimals

The decimal with the fewest digits that reads back as the same double, and of those the nearest. It
is found by trying one, two and more digits: the two decimals of that length around the value are
tested against the interval of numbers that round to it. Of two that are equally near the greater
one is taken.
-/

namespace Crosscheck.Number

/-- A decimal number `digits · 10 ^ exponent`. -/
structure Decimal where
  digits : Nat
  exponent : Int
  deriving DecidableEq, Repr

/-- A fraction with its bounds over one denominator. -/
structure Interval where
  low : Nat
  value : Nat
  high : Nat
  den : Nat
  /-- The bounds belong to the interval. -/
  closed : Bool

namespace Interval

/-- The numbers that round to a double. -/
def of (x : Binary64) : Interval :=
  let wide := x.mantissa ≠ Nat.pow 2 52 ∨ x.exponent = -1074
  let low := if wide then 4 * x.mantissa - 2 else 4 * x.mantissa - 1
  let scale := x.exponent - 2
  let up := Nat.pow 2 scale.toNat
  { low := low * up
    value := 4 * x.mantissa * up
    high := (4 * x.mantissa + 2) * up
    den := Nat.pow 2 (-scale).toNat
    closed := x.mantissa % 2 = 0 }

/-- Whether `n · 10 ^ e` lies in the interval. -/
def holds (i : Interval) (n : Nat) (e : Int) : Bool :=
  let num := n * Nat.pow 10 e.toNat * i.den
  let one := Nat.pow 10 (-e).toNat
  if i.closed then i.low * one ≤ num && num ≤ i.high * one
  else i.low * one < num && num < i.high * one

/-- The largest whole number of units of `10 ^ e` that is not above the value. -/
def floor (i : Interval) (e : Int) : Nat :=
  i.value * Nat.pow 10 (-e).toNat / (i.den * Nat.pow 10 e.toNat)

/-- Whether the value is nearer to `n` units than to `n + 1`. -/
def nearerBelow (i : Interval) (n : Nat) (e : Int) : Bool :=
  2 * (i.value * Nat.pow 10 (-e).toNat) < (2 * n + 1) * (i.den * Nat.pow 10 e.toNat)

/-- A hit among the decimals on the grid of `10 ^ e`. -/
def hit? (i : Interval) (e : Int) : Option Decimal :=
  let n := i.floor e
  let below := n ≠ 0 && i.holds n e
  let above := i.holds (n + 1) e
  if below && above then some ⟨if i.nearerBelow n e then n else n + 1, e⟩
  else if below then some ⟨n, e⟩
  else if above then some ⟨n + 1, e⟩
  else none

/-- The first hit on finer and finer grids. -/
def search (i : Interval) : Nat → Int → Decimal
  | 0, e => ⟨i.floor e, e⟩
  | fuel + 1, e =>
    match i.hit? e with
    | some decimal => decimal
    | none => search i fuel (e - 1)

end Interval

/-- The shortest decimal of the absolute value of a double. -/
def Binary64.shortest (x : Binary64) : Decimal :=
  if x.mantissa = 0 then ⟨0, 0⟩
  else
    let i := Interval.of x
    let top := ((Nat.toDigits 10 (i.value / i.den)).length : Int)
    let start := if i.value / i.den = 0 then 0 else top
    i.search 400 start

/-- A decimal without an exponent and with at least one place after the point. -/
def Decimal.positional (d : Decimal) : String :=
  if 0 ≤ d.exponent then
    toString d.digits ++ String.ofList (List.replicate d.exponent.toNat '0') ++ ".0"
  else
    let places := (-d.exponent).toNat
    let digits := (toString d.digits).toList
    let padded := List.replicate (places + 1 - digits.length) '0' ++ digits
    let whole := padded.take (padded.length - places)
    let fraction := padded.drop (padded.length - places)
    let trimmed := (fraction.reverse.dropWhile (· == '0')).reverse
    String.ofList (whole ++ '.' :: (if trimmed.isEmpty then ['0'] else trimmed))

/-- A double as the shortest positional decimal that reads back as it. -/
def showFloat (x : Float) : String :=
  match Binary64.ofFloat? x with
  | some b => (if b.negative then "-" else "") ++ b.shortest.positional
  | none => if x.isNaN then "NaN" else if x < 0 then "-inf" else "inf"

end Crosscheck.Number
