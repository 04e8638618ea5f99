import Crosscheck.Shell.Raw
import Crosscheck.Text.CharClass

/-! # Quoting in messages

Programs put names into their messages in two ways: between the quotation marks of the language, or
so that a shell would read the name back. Which bytes make up a printable character, and what the
marks look like, depends on the encoding.
-/

namespace Crosscheck.Shell.Quotation

/-- A character, as its bytes, or a byte that is part of none. -/
structure Letter where
  bytes : List Char
  printable : Bool

/-- The character at the start of a text. -/
def letter? (text : List Char) : Option (List Char) :=
  [2, 3, 4].findSome? fun n =>
    let bytes := text.take n
    match Utf8.decode? (Raw.toBytes bytes) with
    | some [c] => if n ≤ text.length && Text.isPrintable c then some bytes else none
    | _ => none

/-- The letters of a text, in an encoding that may have characters of more than one byte. -/
def letters (utf8 : Bool) : Nat → List Char → List Letter
  | 0, _ => []
  | _, [] => []
  | fuel + 1, c :: rest =>
    if c.toNat < 128 then ⟨[c], 32 ≤ c.toNat && c.toNat < 127⟩ :: letters utf8 fuel rest
    else
      match if utf8 then letter? (c :: rest) else none with
      | some bytes => ⟨bytes, true⟩ :: letters utf8 fuel ((c :: rest).drop bytes.length)
      | none => ⟨[c], false⟩ :: letters utf8 fuel rest

def lettersOf (utf8 : Bool) (text : String) : List Letter :=
  letters utf8 (text.length + 1) text.toList

def octal (c : Char) : List Char :=
  let digits := Nat.toDigits 8 c.toNat
  List.replicate (3 - digits.length) '0' ++ digits

/-- The escape of a character that cannot be shown. -/
def escape (c : Char) : List Char :=
  match c with
  | '\x07' => ['\\', 'a']
  | '\x08' => ['\\', 'b']
  | '\t' => ['\\', 't']
  | '\n' => ['\\', 'n']
  | '\x0b' => ['\\', 'v']
  | '\x0c' => ['\\', 'f']
  | '\r' => ['\\', 'r']
  | c => '\\' :: octal c

/-! ## Marks -/

/-- Between the marks of the language. -/
def marked (utf8 : Bool) (text : String) : String :=
  let (opening, closing) :=
    if utf8 then (Raw.ofText "‘", Raw.ofText "’") else ("\x27", "\x27")
  let body := (lettersOf utf8 text).flatMap fun letter =>
    if !letter.printable then letter.bytes.flatMap escape
    else if letter.bytes == ['\\'] || letter.bytes == closing.toList then '\\' :: letter.bytes
    else letter.bytes
  opening ++ String.ofList body ++ closing

/-! ## For a shell -/

/-- Characters that mean something to a shell, at the start of a name or anywhere. -/
def isSpecial (first alone : Bool) (c : Char) : Bool :=
  " !\"$&()*;<=>[^|'\\?".toList.contains c || c == Char.ofNat 96
    || (first && (c == '#' || c == '~'))
    || (alone && (c == '\x7b' || c == '\x7d'))

/-- Characters that mean the same between double quotes as between single ones. -/
def isTame (first : Bool) (letter : Letter) : Bool :=
  letter.printable &&
    (match letter.bytes with
    | [c] =>
      c.isAlphanum || "%+,-./:]_ '".toList.contains c || (first && (c == '#' || c == '~'))
    | _ => true)

/-- What stands between single quotes. What cannot be shown is escaped in quotes of its own, and a
quote stands outside. -/
def single : Bool → List Letter → List Char
  | _, [] => []
  | escaping, letter :: rest =>
    if !letter.printable then
      (if escaping then [] else "'$'".toList) ++ letter.bytes.flatMap escape ++ single true rest
    else if letter.bytes == ['\x27'] then "'\\''".toList ++ single false rest
    else (if escaping then "''".toList else []) ++ letter.bytes ++ single false rest

/-- Whether a shell reads a text as it is; `colon` counts as special too. -/
def isPlain (colon : Bool) (letters : List Letter) : Bool :=
  !letters.isEmpty && letters.zipIdx.all fun (letter, n) =>
    letter.printable && !letter.bytes.any (isSpecial (n == 0) (letters.length == 1))
      && !(colon && letter.bytes == [':'])

/-- Between quotes for a shell. -/
def wrapped (text : String) (letters : List Letter) : String :=
  let tame := letters.zipIdx.all fun (letter, n) => isTame (n == 0) letter
  if text.toList.contains '\x27' && tame then "\"" ++ text ++ "\""
  else "'" ++ String.ofList (single false letters) ++ "'"

/-- As a shell would read it, quoted if that is needed. -/
def forReading (utf8 : Bool) (text : String) : String :=
  let letters := lettersOf utf8 text
  if isPlain false letters then text else wrapped text letters

/-- As a shell would read it, in a message; without `always` only if that is needed. -/
def forShell (utf8 always : Bool) (text : String) : String :=
  let letters := lettersOf utf8 text
  if isPlain true letters && !always then text else wrapped text letters

end Crosscheck.Shell.Quotation
