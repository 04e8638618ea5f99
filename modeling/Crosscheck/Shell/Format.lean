import Crosscheck.Number.Floating
import Crosscheck.Shell.Numeral
import Crosscheck.Shell.Raw

/-! # Formatted output

Directives give a width, a precision and flags to a text, a character or a number. Escapes stand for
single bytes. All texts are texts of bytes.
-/

namespace Crosscheck.Shell.Format

structure Directive where
  left : Bool := false
  zero : Bool := false
  plus : Bool := false
  space : Bool := false
  alternate : Bool := false
  width : Nat := 0
  precision : Option Nat := none
  conversion : Char := 's'

/-! ## Directives -/

/-- The flag that a character sets. -/
def flag? (d : Directive) : Char → Option Directive
  | '-' => some { d with left := true }
  | '0' => some { d with zero := true }
  | '+' => some { d with plus := true }
  | ' ' => some { d with space := true }
  | '#' => some { d with alternate := true }
  | _ => none

/-- Reads flags and tells which they were. -/
def flags : Directive → List Char → Directive × List Char
  | d, c :: rest =>
    match flag? d c with
    | some d => flags d rest
    | none => (d, c :: rest)
  | d, [] => (d, [])

/-- A width may be negative, which puts the text to the left. -/
def withWidth (d : Directive) (width : Int) : Directive :=
  if width < 0 then { d with left := true, width := width.natAbs }
  else { d with width := width.toNat }

/-- A negative precision is none. -/
def withPrecision (d : Directive) (precision : Int) : Directive :=
  { d with precision := if precision < 0 then none else some precision.toNat }

/-! ## Filling up -/

/-- Fills up to the width with blanks. -/
def pad (d : Directive) (body : List Char) : List Char :=
  let blanks := List.replicate (d.width - body.length) ' '
  if d.left then body ++ blanks else blanks ++ body

/-- Puts a start before digits; zeros come between them. -/
def padNumber (d : Directive) (zeros : Bool) (start digits : List Char) : List Char :=
  let count := if zeros && d.zero && !d.left then d.width - (start.length + digits.length) else 0
  pad d (start ++ List.replicate count '0' ++ digits)

def text (d : Directive) (chars : List Char) : List Char :=
  pad d (match d.precision with
    | some n => chars.take n
    | none => chars)

def sign (d : Directive) (negative : Bool) : List Char :=
  if negative then ['-'] else if d.plus then ['+'] else if d.space then [' '] else []

/-- A whole number of 64 bits as its directive wants it. -/
def integer (d : Directive) (n : Int) : List Char :=
  let signed := d.conversion == 'd' || d.conversion == 'i'
  let base := if d.conversion == 'o' then 8
    else if d.conversion == 'x' || d.conversion == 'X' then 16 else 10
  let magnitude := if signed then n.natAbs else (n.emod UInt64.size).toNat
  let digits := if magnitude = 0 && d.precision == some 0 then [] else Nat.toDigits base magnitude
  let digits := List.replicate ((d.precision.getD 1) - digits.length) '0' ++ digits
  let digits := if d.conversion == 'X' then digits.map Char.toUpper else digits
  let digits := if base = 8 && d.alternate && digits.head? != some '0' then '0' :: digits else digits
  let start :=
    if signed then sign d (n < 0)
    else if base = 16 && d.alternate && magnitude != 0 then ['0', d.conversion]
    else []
  padNumber d d.precision.isNone start digits

/-- A number with a point as its directive wants it. -/
def floating (p : Number.Precision) (d : Directive) (x : Number.Floating) : List Char :=
  let body := x.write p d.conversion d.precision d.alternate
  let finite :=
    match x with
    | .finite .. => true
    | _ => false
  let (letters, body) :=
    if finite && d.conversion.toLower == 'a' then (body.take 2, body.drop 2) else ([], body)
  padNumber d finite (sign d x.isNegative ++ letters) body

/-! ## Escapes -/

def isOctal (c : Char) : Bool := '0' ≤ c && c ≤ '7'

/-- The byte of up to three octal digits, and what follows them. -/
def octal (chars : List Char) : Char × List Char :=
  let digits := (chars.take 3).takeWhile isOctal
  (Char.ofNat ((Number.natural? 8 digits).getD 0 % 256), chars.drop digits.length)

/-- Escapes that stand for a single byte. -/
def simpleEscape? : Char → Option Char
  | 'n' => some '\n'
  | 't' => some '\t'
  | 'r' => some '\r'
  | 'a' => some '\x07'
  | 'b' => some '\x08'
  | 'f' => some '\x0c'
  | 'v' => some '\x0b'
  | 'e' => some '\x1b'
  | '\\' => some '\\'
  | _ => none

/-- The escape after a backslash, as the shell knows it. A backslash that starts none stands for
itself. -/
def escape (rest : List Char) : Char × List Char :=
  match rest with
  | [] => ('\\', [])
  | c :: others =>
    if isOctal c then octal rest
    else
      match simpleEscape? c with
      | some byte => (byte, others)
      | none => ('\\', rest)

/-- Resolves the escapes of an argument, where octal digits may follow a zero. What is done comes
latest first; the second part tells that output ends here. -/
def unescape : Nat → List Char → List Char → List Char × Bool
  | 0, done, _ => (done.reverse, false)
  | _, done, [] => (done.reverse, false)
  | fuel + 1, done, '\\' :: rest =>
    match rest with
    | 'c' :: _ => (done.reverse, true)
    | _ =>
      let rest :=
        match rest with
        | '0' :: d :: others => if isOctal d then d :: others else rest
        | _ => rest
      let (c, rest) := escape rest
      unescape fuel (c :: done) rest
  | fuel + 1, done, c :: rest => unescape fuel (c :: done) rest

def unescaped (chars : List Char) : List Char × Bool :=
  unescape (chars.length + 1) [] chars

end Crosscheck.Shell.Format
