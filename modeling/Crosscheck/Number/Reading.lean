/-! # Reading numbers

Whole numbers in a radix, and decimal numbers as doubles. No digit grouping is accepted.
-/

namespace Crosscheck.Number

/-- The value of a digit in any radix up to sixteen. -/
def digit? (c : Char) : Option Nat :=
  if '0' ≤ c ∧ c ≤ '9' then some (c.toNat - 48)
  else if 'a' ≤ c ∧ c ≤ 'f' then some (c.toNat - 87)
  else if 'A' ≤ c ∧ c ≤ 'F' then some (c.toNat - 55)
  else none

/-- A number written in a radix, one digit at least and no sign. -/
def natural? (radix : Nat) (digits : List Char) : Option Nat :=
  if digits.isEmpty then none
  else
    digits.foldlM (fun value c =>
      match digit? c with
      | some d => if d < radix then some (value * radix + d) else none
      | none => none) 0

/-- What follows a start that the text has. -/
def after? (start : List Char) (text : List Char) : Option (List Char) :=
  if start.isPrefixOf text then some (text.drop start.length) else none

def dropPlus (text : List Char) : List Char :=
  (after? ['+'] text).getD text

def startsSigned (text : List Char) : Bool :=
  text.head? == some '+' || text.head? == some '-'

/-- Zero followed by more digits reads as text, not as a number. -/
def isPaddedZero (text : List Char) : Bool :=
  let body := if startsSigned text then text.tail else text
  match body with
  | '0' :: rest => !rest.isEmpty && rest.all Char.isDigit
  | _ => false

/-- The radixes that are announced by letters. -/
def radixes : List (List Char × Nat) :=
  [(['0', 'x'], 16), (['0', 'o'], 8), (['0', 'b'], 2)]

/-- A number below `bound`: an optional plus, then decimal digits or digits after `0x`, `0o` or
`0b`. -/
def unsigned? (bound : Nat) (text : List Char) : Option Nat :=
  let body := dropPlus text
  let small (n : Option Nat) : Option Nat := n.filter (· < bound)
  let inRadix := radixes.findSome? fun (letters, radix) =>
    (after? letters body).bind fun digits => small (natural? radix digits)
  match inRadix with
  | some n => some n
  | none =>
    if startsSigned body || isPaddedZero text then none else small (natural? 10 body)

/-- A number from `-bound` on that is written with a minus sign. -/
def negative? (bound : Nat) (text : List Char) : Option Int :=
  match text with
  | '-' :: body =>
    let small (n : Option Nat) : Option Int := (n.filter (· ≤ bound)).map (fun n => -(n : Int))
    let inRadix := radixes.findSome? fun (letters, radix) =>
      (after? letters body).bind fun digits => small (natural? radix digits)
    match inRadix with
    | some n => some n
    | none => if isPaddedZero text then none else small (natural? 10 body)
  | _ => none

/-! ## Decimals -/

/-- The exponent after an `e`. -/
def exponent? (text : List Char) : Option Int :=
  match text with
  | '-' :: digits => (natural? 10 digits).map (fun n => -(n : Int))
  | '+' :: digits => (natural? 10 digits).map Int.ofNat
  | digits => (natural? 10 digits).map Int.ofNat

/-- A decimal without a sign, as the double nearest to it; none if it is out of range. -/
def decimal? (text : List Char) : Option Float :=
  let mantissa := text.takeWhile (fun c => c != 'e' && c != 'E')
  let tail := text.drop mantissa.length
  let whole := mantissa.takeWhile (· != '.')
  let fraction := (mantissa.drop whole.length).drop 1
  let digits := whole ++ fraction
  let exponent := if tail.isEmpty then some 0 else exponent? tail.tail
  if !(digits.all Char.isDigit) then none
  else
    match natural? 10 digits, exponent with
    | some n, some e =>
      let e := e - (fraction.length : Int)
      if n = 0 then some 0
      else if (digits.length : Int) + e < -400 then some 0
      else if 400 < e then none
      else
        let x := Float.ofScientific n (decide (e < 0)) e.natAbs
        if x.isFinite then some x else none
    | _, _ => none

/-- A decimal number, or one of the names of infinity and of the undefined number. -/
def float? (text : List Char) : Option Float :=
  let body := dropPlus text
  let word := String.ofList text
  let plain := String.ofList body
  if text.head? == some '+' && startsSigned body then none
  else if plain = ".inf" ∨ plain = ".Inf" ∨ plain = ".INF" then some (1 / 0)
  else if word = "-.inf" ∨ word = "-.Inf" ∨ word = "-.INF" then some (-1 / 0)
  else if word = ".nan" ∨ word = ".NaN" ∨ word = ".NAN" then some (0 / 0)
  else
    match body with
    | '-' :: rest => (decimal? rest).map (fun x => -x)
    | '+' :: rest => decimal? rest
    | rest => decimal? rest

end Crosscheck.Number
