import Crosscheck.Number.Reading

/-! # Binary numbers of a given precision, as text

A decimal or hexadecimal numeral is read as the nearest number with so many bits, ties going to an
even mantissa. Numbers are written exactly or rounded to the nearest decimal, ties again going to the
even one.
-/

namespace Crosscheck.Number

/-- A number is a mantissa times a power of two. -/
inductive Floating where
  | finite (negative : Bool) (mantissa : Nat) (exponent : Int)
  | infinite (negative : Bool)
  | undefined (negative : Bool)
  deriving DecidableEq, Repr

/-- How many bits a mantissa has, the least exponent of its last bit, and the power of two that no
number reaches. -/
structure Precision where
  bits : Nat
  least : Int
  bound : Int

namespace Precision

def double : Precision := ⟨53, -1074, 1024⟩

def extended : Precision := ⟨64, -16445, 16384⟩

end Precision

namespace Floating

/-- The quotient of two numbers to the nearest whole one, ties to the even one. -/
def roundDiv (num den : Nat) : Nat :=
  let q := num / den
  let r := num % den
  if 2 * r < den then q
  else if den < 2 * r then q + 1
  else q + q % 2

/-- A fraction scaled by a power of a base. -/
def scaled (base : Nat) (num den : Nat) (power : Int) : Nat × Nat :=
  if 0 ≤ power then (num * Nat.pow base power.toNat, den)
  else (num, den * Nat.pow base (-power).toNat)

/-- The number nearest to a fraction, and whether it is out of range. -/
def ofFraction (p : Precision) (negative : Bool) (num den : Nat) : Floating × Bool :=
  if num = 0 then (.finite negative 0 0, false)
  else
    let guess : Int := (Nat.log2 num : Int) - (Nat.log2 den : Int)
    let (n, d) := scaled 2 num den (-guess)
    let top := if n < d then guess - 1 else guess
    let exponent := max (top - (p.bits : Int) + 1) p.least
    let (n, d) := scaled 2 num den (-exponent)
    let mantissa := roundDiv n d
    let size := (Nat.log2 mantissa : Int) + exponent
    if mantissa ≠ 0 && p.bound ≤ size then (.infinite negative, true)
    else
      let small := mantissa < Nat.pow 2 (p.bits - 1) && n % d ≠ 0
      (.finite negative mantissa exponent, small)

/-! ## Reading -/

/-- A numeral at the start of a text. -/
structure Leading where
  value : Floating
  found : Bool
  /-- The numeral is out of range. -/
  range : Bool
  rest : List Char

def isSpace (c : Char) : Bool := c == ' ' || ('\t' ≤ c && c ≤ '\r')

/-- What follows a word, whatever the case of its letters. -/
def afterWord? (word : String) (text : List Char) : Option (List Char) :=
  let start := text.take word.length
  if String.ofList (start.map Char.toLower) = word then some (text.drop word.length) else none

/-- An exponent after one of two letters, if there is one. -/
def exponentAt (lower upper : Char) (text : List Char) : Int × List Char :=
  match text with
  | c :: rest =>
    if c == lower || c == upper then
      let (negative, digits) :=
        match rest with
        | '-' :: digits => (true, digits)
        | '+' :: digits => (false, digits)
        | digits => (false, digits)
      let number := digits.takeWhile Char.isDigit
      match natural? 10 number with
      | some n => (if negative then -(n : Int) else n, digits.drop number.length)
      | none => (0, text)
    else (0, text)
  | [] => (0, [])

/-- The digits before and after the point, and what follows them. -/
def digitsAt (isDigit : Char → Bool) (text : List Char) : List Char × List Char × List Char :=
  let whole := text.takeWhile isDigit
  match text.drop whole.length with
  | '.' :: rest =>
    let fraction := rest.takeWhile isDigit
    if whole.isEmpty && fraction.isEmpty then ([], [], text)
    else (whole, fraction, rest.drop fraction.length)
  | rest => (whole, [], rest)

def isHexDigit (c : Char) : Bool := (digit? c).isSome

/-- A numeral without a sign. -/
def unsignedAt (p : Precision) (negative : Bool) (text : List Char) : Option Leading :=
  let hexadecimal : Option Leading :=
    match text with
    | '0' :: x :: rest =>
      if x == 'x' || x == 'X' then
        let (whole, fraction, rest) := digitsAt isHexDigit rest
        match natural? 16 (whole ++ fraction) with
        | some n =>
          let (power, rest) := exponentAt 'p' 'P' rest
          let power := power - 4 * (fraction.length : Int)
          if n ≠ 0 && 40000 < power then some ⟨.infinite negative, true, true, rest⟩
          else if n = 0 || power < -40000 then some ⟨.finite negative 0 0, true, n ≠ 0, rest⟩
          else
            let (num, den) := scaled 2 n 1 power
            let (value, range) := ofFraction p negative num den
            some ⟨value, true, range, rest⟩
        | none => none
      else none
    | _ => none
  let decimal : Option Leading :=
    let (whole, fraction, rest) := digitsAt Char.isDigit text
    match natural? 10 (whole ++ fraction) with
    | some n =>
      let (power, rest) := exponentAt 'e' 'E' rest
      let power := power - (fraction.length : Int)
      if n = 0 then some ⟨.finite negative 0 0, true, false, rest⟩
      else if 6000 < power then some ⟨.infinite negative, true, true, rest⟩
      else if ((whole ++ fraction).length : Int) + power < -6000 then
        some ⟨.finite negative 0 0, true, true, rest⟩
      else
        let (num, den) := scaled 10 n 1 power
        let (value, range) := ofFraction p negative num den
        some ⟨value, true, range, rest⟩
    | none => none
  let named : Option Leading :=
    match (afterWord? "infinity" text).or (afterWord? "inf" text) with
    | some rest => some ⟨.infinite negative, true, false, rest⟩
    | none =>
      (afterWord? "nan" text).map fun rest =>
        let inside := rest.tail.takeWhile (fun c => c.isAlphanum || c == '_')
        let after := rest.tail.drop inside.length
        let rest := if rest.head? == some '(' && after.head? == some ')' then after.tail else rest
        ⟨.undefined negative, true, false, rest⟩
  hexadecimal.or (decimal.or named)

/-- The numeral that a text starts with, after blanks and a sign. -/
def leading (p : Precision) (text : List Char) : Leading :=
  let body := text.dropWhile isSpace
  let (negative, body) :=
    match body with
    | '-' :: rest => (true, rest)
    | '+' :: rest => (false, rest)
    | rest => (false, rest)
  (unsignedAt p negative body).getD ⟨.finite false 0 0, false, false, text⟩

/-! ## Writing -/

def isNegative : Floating → Bool
  | finite negative _ _ | infinite negative | undefined negative => negative

/-- The digits of a whole number, at least so many. -/
def padded (count n : Nat) : List Char :=
  let digits := Nat.toDigits 10 n
  List.replicate (count - digits.length) '0' ++ digits

/-- A fraction with so many places. Its denominator is a power of two, so that after as many places as
that power there are only zeros. With `point` the point is kept even before no places. -/
def fixed (num den places : Nat) (point : Bool) : List Char :=
  let exact := min places (Nat.log2 den)
  let digits := padded (exact + 1) (roundDiv (num * Nat.pow 10 exact) den)
  let whole := digits.take (digits.length - exact)
  let fraction := digits.drop (digits.length - exact) ++ List.replicate (places - exact) '0'
  whole ++ (if point || !fraction.isEmpty then '.' :: fraction else [])

/-- The power of ten of the first digit of a fraction that is not zero. -/
def decimalPower (num den : Nat) : Int :=
  let below (power : Int) : Bool :=
    let (n, d) := scaled 10 num den (-power)
    decide (n < d)
  let guess : Int := ((Nat.log2 num : Int) - (Nat.log2 den : Int)) * 30103 / 100000
  let start := guess + 2
  let powers := (List.range 6).map fun (n : Nat) => start - (n : Int)
  (powers.find? fun power => !below power).getD start

/-- The digits of a fraction rounded to so many, and the power of ten of the first one. The
denominator is a power of two. -/
def significant (num den digits : Nat) : List Char × Int :=
  if num = 0 then (List.replicate digits '0', 0)
  else
    let power := decimalPower num den
    let exact := min digits (power + 1 + (Nat.log2 den : Int)).toNat
    let (n, d) := scaled 10 num den ((exact : Int) - 1 - power)
    let rounded := roundDiv n d
    let text := Nat.toDigits 10 rounded
    let zeros := List.replicate (digits - exact) '0'
    if exact < text.length then (text.take exact ++ zeros, power + 1) else (text ++ zeros, power)

def exponentText (letter : Char) (least : Nat) (power : Int) : List Char :=
  letter :: (if power < 0 then '-' else '+') :: padded least power.natAbs

/-- A fraction with one digit before the point and so many after it, times a power of ten. -/
def scientific (num den places : Nat) (point : Bool) : List Char :=
  let (digits, power) := significant num den (places + 1)
  let fraction := digits.drop 1
  digits.take 1 ++ (if point || !fraction.isEmpty then '.' :: fraction else [])
    ++ exponentText 'e' 2 power

def dropZeros (text : List Char) : List Char :=
  let stripped := (text.reverse.dropWhile (· == '0')).reverse
  if stripped.getLast? == some '.' then stripped.dropLast else stripped

/-- A fraction with so many digits, in the shorter of the two notations. -/
def general (num den digits : Nat) (keep : Bool) : List Char :=
  let digits := max digits 1
  let (_, power) := significant num den digits
  if -4 ≤ power && power < digits then
    let text := fixed num den ((digits : Int) - 1 - power).toNat keep
    if keep || !text.contains '.' then text else dropZeros text
  else
    let text := scientific num den (digits - 1) keep
    if keep then text
    else
      let mantissa := text.takeWhile (· != 'e')
      (if mantissa.contains '.' then dropZeros mantissa else mantissa) ++ text.drop mantissa.length

/-- A number in hexadecimal. The first digit holds `lead` bits of the mantissa. -/
def hexadecimal (p : Precision) (lead : Nat) (mantissa : Nat) (exponent : Int)
    (places : Option Nat) (point : Bool) : List Char :=
  let hex (n : Nat) (count : Nat) : List Char :=
    let digits := Nat.toDigits 16 n
    List.replicate (count - digits.length) '0' ++ digits
  let count := (p.bits - lead) / 4
  let shift := if mantissa = 0 then 0 else p.bits - 1 - Nat.log2 mantissa
  let shift := min shift (exponent - p.least).toNat
  let m := mantissa * Nat.pow 2 shift
  let power := if mantissa = 0 then 0 else exponent - shift + 4 * (count : Int)
  let (m, count) :=
    match places with
    | some wanted =>
      if wanted < count then (roundDiv m (Nat.pow 16 (count - wanted)), wanted) else (m, count)
    | none => (m, count)
  let whole := m / Nat.pow 16 count
  let fraction := hex (m % Nat.pow 16 count) count
  let fraction := if count = 0 then [] else fraction
  let fraction :=
    match places with
    | some wanted => fraction ++ List.replicate (wanted - fraction.length) '0'
    | none => (fraction.reverse.dropWhile (· == '0')).reverse
  ['0', 'x'] ++ Nat.toDigits 16 whole
    ++ (if point || !fraction.isEmpty then '.' :: fraction else []) ++ exponentText 'p' 1 power

/-- The text of a number without its sign, in the notation that a letter stands for. -/
def write (p : Precision) (style : Char) (places : Option Nat) (keep : Bool) (x : Floating) :
    List Char :=
  let text :=
    match x with
    | infinite _ => ['i', 'n', 'f']
    | undefined _ => ['n', 'a', 'n']
    | finite _ mantissa exponent =>
      let (num, den) := scaled 2 mantissa 1 exponent
      match style.toLower with
      | 'f' => fixed num den (places.getD 6) keep
      | 'e' => scientific num den (places.getD 6) keep
      | 'a' => hexadecimal p (if p.bits = 64 then 4 else 1) mantissa exponent places keep
      | _ => general num den (places.getD 6) keep
  if style.isUpper then text.map Char.toUpper else text

end Floating

end Crosscheck.Number
