import Crosscheck.Number.Reading

/-! # Whole numbers at the start of a text

Blanks and a sign may come first. Where the notation is left open, `0x` starts a hexadecimal number
and `0` an octal one.
-/

namespace Crosscheck.Shell.Numeral

def isSpace (c : Char) : Bool :=
  c == ' ' || ('\t' ≤ c && c ≤ '\r')

/-- A number and what follows it. Without digits nothing has been read. -/
structure Leading where
  value : Int
  found : Bool
  rest : List Char

/-- The digits of a radix at the start of a text, and what follows them. -/
def digits (radix : Nat) (text : List Char) : List Char × List Char :=
  let isDigit (c : Char) : Bool := (Number.digit? c).any (· < radix)
  (text.takeWhile isDigit, text.dropWhile isDigit)

/-- The radix of a number whose notation is left open, and its digits. -/
def openRadix (text : List Char) : Nat × List Char :=
  match text with
  | '0' :: x :: d :: rest =>
    if (x == 'x' || x == 'X') && (Number.digit? d).isSome then (16, d :: rest) else (8, text)
  | '0' :: _ => (8, text)
  | _ => (10, text)

/-- The number that a text starts with; in a radix, or in the one that its notation tells. -/
def leading (radix : Option Nat) (text : List Char) : Leading :=
  let body := text.dropWhile isSpace
  let (negative, body) :=
    match body with
    | '-' :: rest => (true, rest)
    | '+' :: rest => (false, rest)
    | rest => (false, rest)
  let (base, body) :=
    match radix with
    | some base => (base, body)
    | none => openRadix body
  let (number, rest) := digits base body
  match Number.natural? base number with
  | some n => ⟨if negative then -(n : Int) else n, true, rest⟩
  | none => ⟨0, false, text⟩

def greatest : Int := 9223372036854775807

def least : Int := -9223372036854775808

/-- The nearest number of 64 bits. -/
def saturate (n : Int) : Int :=
  if n < least then least else if greatest < n then greatest else n

/-- The number that a text holds apart from blanks, if it has 64 bits. Nothing at all counts as zero
where the notation is left open. -/
def whole? (radix : Option Nat) (text : String) : Option Int :=
  let read := leading radix text.toList
  let fits := least ≤ read.value && read.value ≤ greatest
  let rest := if read.found then read.rest else text.toList
  if fits && (read.found || radix.isNone) && rest.all isSpace then some read.value else none

/-- A number made of decimal digits only. -/
def natural? (text : String) : Option Nat :=
  if text.toList.all Char.isDigit then Number.natural? 10 text.toList else none

end Crosscheck.Shell.Numeral
