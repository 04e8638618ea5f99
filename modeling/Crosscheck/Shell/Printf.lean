import Crosscheck.Shell.Format
import Crosscheck.Shell.Quotation

/-! # Printf

The shell and a program of its own each print arguments under the control of a format. Both go
through the format again as long as there are arguments left; they differ in the escapes they know
and in what they say about arguments that are no numbers.
-/

namespace Crosscheck.Shell.Printf

/-- How far printing has come. -/
structure Progress where
  args : List String
  /-- What was written, latest first. -/
  written : List (List Char) := []
  /-- What was said, latest first. -/
  complaints : List String := []
  failed : Bool := false
  /-- Something was too wide to be written. -/
  lost : Bool := false

/-- Why printing ends early. -/
inductive Stop where
  | finished
  | fatal (text : String)

abbrev Printing := ExceptT Stop (StateM Progress)

def put (chars : List Char) : Printing Unit :=
  modify fun p => { p with written := chars :: p.written }

def complain (text : String) : Printing Unit :=
  modify fun p => { p with complaints := text :: p.complaints }

/-- Says that an argument could not be used as it is. -/
def object (text : String) : Printing Unit := do
  complain text
  modify fun p => { p with failed := true }

def next? : Printing (Option String) := do
  match (← get).args with
  | [] => return none
  | arg :: rest =>
    modify fun p => { p with args := rest }
    return some arg

/-- The result of printing: the text, what was said, and how it ended. -/
structure Printed where
  text : List Char
  complaints : List String
  failed : Bool
  lost : Bool
  stop : Option Stop

/-- Goes through a format once, and again while arguments are used and left. -/
def repeatedly (once : Printing Unit) : Nat → Progress → Option Stop × Progress
  | 0, p => (none, p)
  | fuel + 1, p =>
    match (once.run p : Except Stop Unit × Progress) with
    | (.error stop, after) => (some stop, after)
    | (.ok (), after) =>
      if after.args.isEmpty || after.args.length = p.args.length then (none, after)
      else repeatedly once fuel after

def print (once : Printing Unit) (args : List String) : Printed × List String :=
  let (stop, p) := repeatedly once (args.length + 1) { args }
  (⟨p.written.reverse.flatten, p.complaints.reverse, p.failed, p.lost, stop⟩, p.args)

/-- What is said of an argument that is no number or too large a one. -/
structure Voice where
  noNumber : String → String
  partNumber : String → String
  tooLarge : String → String
  /-- That a number is too large is said even if something follows it. -/
  rangeFirst : Bool

/-- Says what is wrong with an argument of which a part was read. -/
def check (voice : Voice) (arg : String) (found range : Bool) (rest : List Char) : Printing Unit := do
  if range && (rest.isEmpty || voice.rangeFirst) then object (voice.tooLarge arg)
  else if !rest.isEmpty then
    object (if found then voice.partNumber arg else voice.noNumber arg)

/-- The whole number that an argument stands for. -/
def integer (voice : Voice) (signed : Bool) (arg : String) : Printing Int := do
  let read := Numeral.leading none arg.toList
  let least : Int := if signed then Numeral.least else -(UInt64.size - 1 : Nat)
  let greatest : Int := if signed then Numeral.greatest else (UInt64.size - 1 : Nat)
  let small := read.value < least
  let large := greatest < read.value
  check voice arg read.found (small || large) read.rest
  return if large || (small && !signed) then greatest else if small then least else read.value

def floating (voice : Voice) (p : Number.Precision) (arg : String) : Printing Number.Floating := do
  let read := Number.Floating.leading p arg.toList
  check voice arg read.found read.range read.rest
  return read.value

/-- Digits of a directive, and what follows them. -/
def digits (text : List Char) : Nat × List Char :=
  let number := text.takeWhile Char.isDigit
  ((Number.natural? 10 number).getD 0, text.drop number.length)

/-- The greatest width and precision. -/
def widest : Nat := 2147483647

def isTooWide (d : Format.Directive) : Bool :=
  widest < d.width || d.precision.any (widest < ·)

/-- The greatest width and precision that are carried out; no output is kept that long. -/
def longest : Nat := 20000000

def bounded (d : Format.Directive) : Format.Directive :=
  { d with width := min d.width longest, precision := d.precision.map (min longest) }

/-! ## In the shell -/

namespace Command

def voice : Voice where
  noNumber arg := arg ++ ": expected numeric value"
  partNumber arg := arg ++ ": not completely converted"
  tooLarge arg := arg ++ ": Numerical result out of range"
  rangeFirst := false

/-- A number, or the byte after a quotation mark. -/
def quotedOr {α : Type} (zero : α) (ofByte : Nat → α) (read : String → Printing α) : Printing α := do
  match ← next? with
  | none => return zero
  | some arg =>
    match arg.toList with
    | c :: rest =>
      if c == '"' || c == '\x27' then return ofByte (rest.head?.elim 0 Char.toNat) else read arg
    | [] => read arg

def integerArg (signed : Bool) : Printing Int :=
  quotedOr 0 Int.ofNat (integer voice signed)

def floatingArg : Printing Number.Floating :=
  quotedOr (.finite false 0 0) (fun n => .finite false n 0) (floating voice .double)

/-- Writes the text of a directive, unless it is too wide. -/
def putField (d : Format.Directive) (field : Format.Directive → List Char) : Printing Unit := do
  if isTooWide d then throw (.fatal "xvsnprintf failed") else put (field (bounded d))

/-- Carries out the directive of a letter. -/
def direct (d : Format.Directive) (shown : String) : Printing Unit := do
  match d.conversion with
  | 'b' =>
    let (chars, ended) := Format.unescaped ((← next?).getD "").toList
    putField d (Format.text · chars)
    if ended then throw .finished
  | 'c' =>
    let c := ((← next?).bind (·.toList.head?)).getD '\x00'
    putField d (Format.pad · [c])
  | 's' =>
    let arg := (← next?).getD ""
    putField d (Format.text · arg.toList)
  | 'd' | 'i' =>
    let n ← integerArg true
    putField d (Format.integer · n)
  | 'o' | 'u' | 'x' | 'X' =>
    let n ← integerArg false
    putField d (Format.integer · n)
  | 'a' | 'A' | 'e' | 'E' | 'f' | 'F' | 'g' | 'G' =>
    let x ← floatingArg
    putField d (Format.floating .double · x)
  | _ => throw (.fatal (shown ++ ": invalid directive"))

/-- A width or precision that is an argument, of which 32 bits count. -/
def measure : Printing Int := do
  return (← integerArg true).bmod 4294967296

/-- A directive after its percent sign; gives what follows it. -/
def directive (text : List Char) : Printing (List Char) := do
  let (d, rest) := Format.flags {} text
  let (d, rest) ←
    match rest with
    | '*' :: rest => pure (Format.withWidth d (← measure), rest)
    | rest => let (width, rest) := digits rest; pure ({ d with width }, rest)
  let (d, rest) ←
    match rest with
    | '.' :: '*' :: rest => pure (Format.withPrecision d (← measure), rest)
    | '.' :: rest => let (n, rest) := digits rest; pure ({ d with precision := some n }, rest)
    | rest => pure (d, rest)
  match rest with
  | [] => throw (.fatal "missing format character")
  | c :: after =>
    let shown := String.ofList ('%' :: text.take (text.length - after.length))
    direct { d with conversion := c } shown
    return after

def format : Nat → List Char → Printing Unit
  | 0, _ => return ()
  | _, [] => return ()
  | fuel + 1, '\\' :: rest => do
    let (c, rest) := Format.escape rest
    put [c]
    format fuel rest
  | fuel + 1, '%' :: '%' :: rest => do
    put ['%']
    format fuel rest
  | fuel + 1, '%' :: rest => do format fuel (← directive rest)
  | fuel + 1, c :: rest => do
    put [c]
    format fuel rest

/-- What the command of the shell prints. -/
def printed (text : String) (args : List String) : Printed :=
  (print (format (text.length + 1) text.toList) args).1

end Command

/-! ## As a program -/

namespace Utility

/-- How names are quoted, and whether the encoding has characters of many bytes. -/
structure Manner where
  utf8 : Bool

def Manner.voice (manner : Manner) : Voice where
  noNumber arg := Quotation.marked manner.utf8 arg ++ ": expected a numeric value"
  partNumber arg := Quotation.marked manner.utf8 arg ++ ": value not completely converted"
  tooLarge arg := Quotation.marked manner.utf8 arg ++ ": Numerical result out of range"
  rangeFirst := true

/-- The character after a quotation mark, and what follows it. -/
def constant (manner : Manner) (text : List Char) : Nat × List Char :=
  let long := if manner.utf8 && 1 < text.length then
      [2, 3, 4].findSome? fun n =>
        match Utf8.decode? (Raw.toBytes (text.take n)) with
        | some [c] => some (c.toNat, text.drop n)
        | _ => none
    else none
  match long with
  | some result => result
  | none => (text.head?.elim 0 Char.toNat, text.tail)

def quotedOr {α : Type} (manner : Manner) (ofCode : Nat → α) (read : String → Printing α)
    (arg : String) : Printing α := do
  match arg.toList with
  | q :: c :: rest =>
    if q == '"' || q == '\x27' then
      let (code, after) := constant manner (c :: rest)
      if !after.isEmpty then
        complain ("warning: " ++ String.ofList after
          ++ ": character(s) following character constant have been ignored")
      return ofCode code
    else read arg
  | _ => read arg

def integerOf (manner : Manner) (signed : Bool) (arg : String) : Printing Int :=
  quotedOr manner Int.ofNat (integer manner.voice signed) arg

def floatingOf (manner : Manner) (arg : String) : Printing Number.Floating :=
  quotedOr manner (fun n => .finite false n 0) (floating manner.voice .extended) arg

/-- A character given by its number. -/
def character (manner : Manner) (code : Nat) : List Char :=
  let hex (width : Nat) : List Char :=
    let digits := (Nat.toDigits 16 code).map Char.toUpper
    List.replicate (width - digits.length) '0' ++ digits
  if code < 128 then [Char.ofNat code]
  else if manner.utf8 then (Raw.ofText (String.singleton (Char.ofNat code))).toList
  else if code < 65536 then '\\' :: 'u' :: hex 4
  else '\\' :: 'U' :: hex 8

/-- The escape after a backslash; gives what follows it. With `zero` octal digits may follow a
zero. -/
def escape (manner : Manner) (zero : Bool) (rest : List Char) : Printing (List Char) := do
  let isHex (c : Char) : Bool := (Number.digit? c).isSome
  match rest with
  | [] => put ['\\']; return []
  | c :: others =>
    if c == 'x' then
      let digits := (others.take 2).takeWhile isHex
      if digits.isEmpty then throw (.fatal "missing hexadecimal number in escape")
      put [Char.ofNat ((Number.natural? 16 digits).getD 0)]
      return others.drop digits.length
    else if Format.isOctal c then
      let (byte, rest) := Format.octal (if zero && c == '0' then others else rest)
      put [byte]
      return rest
    else if c == 'c' then throw .finished
    else if c == '"' then put [c]; return others
    else if c == 'u' || c == 'U' then
      let width := if c == 'u' then 4 else 8
      let digits := others.take width
      if digits.length < width || !digits.all isHex then
        throw (.fatal "missing hexadecimal number in escape")
      let code := (Number.natural? 16 digits).getD 0
      if (code ≤ 159 && code != 36 && code != 64 && code != 96) || (55296 ≤ code && code ≤ 57343) then
        let shown := String.ofList (digits.map Char.toLower)
        throw (.fatal ("invalid universal character name \\" ++ String.singleton c ++ shown))
      put (character manner code)
      return others.drop width
    else
      match Format.simpleEscape? c with
      | some byte => put [byte]
      | none => put ['\\', c]
      return others

/-- Writes a text with its escapes resolved. -/
def resolved (manner : Manner) : Nat → List Char → Printing Unit
  | 0, _ => return ()
  | _, [] => return ()
  | fuel + 1, '\\' :: rest => do resolved manner fuel (← escape manner true rest)
  | fuel + 1, c :: rest => do
    put [c]
    resolved manner fuel rest

/-- Flags of a directive, what they do not go with, and what follows them. -/
def flags : Format.Directive → List Char → List Char → Format.Directive × List Char × List Char
  | d, refused, c :: rest =>
    match Format.flag? d c, c with
    | some d, '#' => flags d ("cdisu".toList ++ refused) rest
    | some d, '0' => flags d ("cs".toList ++ refused) rest
    | some d, _ => flags d refused rest
    | none, '\x27' | none, 'I' => flags d ("aAceEosxX".toList ++ refused) rest
    | none, _ => (d, refused, c :: rest)
  | d, refused, [] => (d, refused, [])

/-- A width or precision that is an argument. -/
def measure (manner : Manner) (what : String) (negative : Bool) : Printing Int := do
  match ← next? with
  | none => return 0
  | some arg =>
    let n ← integerOf manner true arg
    if 2147483647 < n || (n < -2147483648 && !negative) then
      throw (.fatal ("invalid " ++ what ++ ": " ++ Quotation.marked manner.utf8 arg))
    return n

/-- Writes the text of a directive. One that is too wide is lost. -/
def putField (d : Format.Directive) (field : Format.Directive → List Char) : Printing Unit := do
  if isTooWide d then modify fun p => { p with lost := true } else put (field (bounded d))

/-- Carries out the directive of a letter. -/
def direct (manner : Manner) (d : Format.Directive) : Printing Unit := do
  let arg := (← next?).getD ""
  match d.conversion with
  | 'c' => putField d (Format.pad · [arg.toList.headD '\x00'])
  | 's' => putField d (Format.text · arg.toList)
  | 'd' | 'i' =>
    let n ← integerOf manner true arg
    putField d (Format.integer · n)
  | 'o' | 'u' | 'x' | 'X' =>
    let n ← integerOf manner false arg
    putField d (Format.integer · n)
  | _ =>
    let x ← floatingOf manner arg
    putField d (Format.floating .extended · x)

/-- A directive after its percent sign; gives what follows it. -/
def directive (manner : Manner) (text : List Char) : Printing (List Char) := do
  match text with
  | '%' :: rest => put ['%']; return rest
  | 'b' :: rest =>
    let arg := (← next?).getD ""
    resolved manner (arg.length + 1) arg.toList
    return rest
  | 'q' :: rest =>
    match ← next? with
    | some arg => put (Quotation.forReading manner.utf8 arg).toList
    | none => pure ()
    return rest
  | _ =>
    let (d, refused, rest) := flags {} [] text
    let (d, rest) ←
      match rest with
      | '*' :: rest => pure (Format.withWidth d (← measure manner "field width" false), rest)
      | rest => let (width, rest) := digits rest; pure ({ d with width }, rest)
    let (d, refused, rest) ←
      match rest with
      | '.' :: '*' :: rest =>
        pure (Format.withPrecision d (← measure manner "precision" true), 'c' :: refused, rest)
      | '.' :: rest =>
        let (n, rest) := digits rest
        pure ({ d with precision := some n }, 'c' :: refused, rest)
      | rest => pure (d, refused, rest)
    let rest := rest.dropWhile fun c => "lLhjtz".toList.contains c
    let shown := String.ofList ('%' :: text.take (text.length - (rest.drop 1).length))
    match rest with
    | c :: after =>
      if !("aAcdeEfFgGiosuxX".toList.contains c) || refused.contains c then
        throw (.fatal (shown ++ ": invalid conversion specification"))
      direct manner { d with conversion := c }
      return after
    | [] => throw (.fatal (shown ++ ": invalid conversion specification"))

def format (manner : Manner) : Nat → List Char → Printing Unit
  | 0, _ => return ()
  | _, [] => return ()
  | fuel + 1, '\\' :: rest => do format manner fuel (← escape manner false rest)
  | fuel + 1, '%' :: rest => do format manner fuel (← directive manner rest)
  | fuel + 1, c :: rest => do
    put [c]
    format manner fuel rest

/-- What the program prints, and the arguments that are left. -/
def printed (utf8 : Bool) (text : String) (args : List String) : Printed × List String :=
  print (format ⟨utf8⟩ (text.length + 1) text.toList) args

end Utility

end Crosscheck.Shell.Printf
