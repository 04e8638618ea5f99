import Crosscheck.Number.Reading

/-! # Permissions

Twelve bits say what the owner of a file, its group and others may do with it. A change of them is
written in digits, or in clauses that name who is meant and what is added, taken away or set.
-/

namespace Crosscheck.Shell.Permission

/-- All bits. -/
def every : Nat := 0o7777

/-- The bits for running a file. -/
def running : Nat := 0o111

/-- The bits that a directory keeps unless a change names them. -/
def kept : Nat := 0o6000

/-- The bits that are in the first and not in the second. -/
def without (bits other : Nat) : Nat :=
  Nat.land bits (every - Nat.land other every)

/-- The bits in letters. -/
def letters (bits : Nat) : String :=
  let has (bit : Nat) : Bool := Nat.land bits bit != 0
  let pick (bit : Nat) (c : Char) : Char := if has bit then c else '-'
  let last (run special : Nat) (both only : Char) : Char :=
    if has special then if has run then both else only else pick run 'x'
  String.ofList
    [pick 0o400 'r', pick 0o200 'w', last 0o100 0o4000 's' 'S',
      pick 0o40 'r', pick 0o20 'w', last 0o10 0o2000 's' 'S',
      pick 0o4 'r', pick 0o2 'w', last 0o1 0o1000 't' 'T']

/-- The bits in four digits. -/
def digits (bits : Nat) : String :=
  let text := Nat.toDigits 8 bits
  String.ofList (List.replicate (4 - text.length) '0' ++ text)

/-! ## Changes -/

/-- Where the bits of a step come from. -/
inductive Source where
  | given
  /-- What others have already. -/
  | copied
  /-- The given ones, and those for running if the file is a directory or can be run. -/
  | runnable

/-- One step of a change. -/
structure Step where
  operator : Char
  /-- Who is meant; zero if nobody is named. -/
  affected : Nat
  bits : Nat
  source : Source
  mentioned : Nat

/-- The bits after a step. If nobody is named, the mask counts. -/
def Step.apply (directory : Bool) (mask : Nat) (old : Nat) (step : Step) : Nat :=
  let copies (bits : Nat) : Nat := if Nat.land old (Nat.land step.bits bits) = 0 then 0 else bits
  let bits :=
    match step.source with
    | .given => step.bits
    | .copied => Nat.lor (copies 0o444) (Nat.lor (copies 0o222) (copies 0o111))
    | .runnable =>
      if directory || Nat.land old running != 0 then Nat.lor step.bits running else step.bits
  let omitted := if directory then without kept step.mentioned else 0
  let named := if step.affected = 0 then without every mask else step.affected
  let bits := without (Nat.land bits named) omitted
  match step.operator with
  | '+' => Nat.lor old bits
  | '-' => without old bits
  | _ =>
    let preserved := if step.affected = 0 then 0 else without every step.affected
    Nat.lor (Nat.land old (Nat.lor preserved omitted)) bits

/-- The bits after a change. -/
def change (directory : Bool) (mask : Nat) (steps : List Step) (old : Nat) : Nat :=
  steps.foldl (Step.apply directory mask) old

/-! ## Reading changes -/

def isOperator (c : Char) : Bool := c == '+' || c == '-' || c == '='

def isOctal (c : Char) : Bool := '0' ≤ c && c < '8'

def whoBits : Char → Option Nat
  | 'u' => some 0o4700
  | 'g' => some 0o2070
  | 'o' => some 0o1007
  | 'a' => some every
  | _ => none

def letterBits : Char → Option Nat
  | 'r' => some 0o444
  | 'w' => some 0o222
  | 'x' => some 0o111
  | 'X' => some 0
  | 's' => some 0o6000
  | 't' => some 0o1000
  | _ => none

def union (bits : List Nat) : Nat :=
  bits.foldl Nat.lor 0

/-- A number of octal digits, if it is one of bits. -/
def number? (text : List Char) : Option Nat :=
  (Number.natural? 8 text).filter (· ≤ every)

/-- Reads a step after its operator. -/
def readStep (affected : Nat) (operator : Char) (text : List Char) : Option (Step × List Char) :=
  let step (bits : Nat) (source : Source) : Step :=
    let mentioned := if affected = 0 then bits else Nat.land affected bits
    { operator, affected, bits, source, mentioned }
  let number := text.takeWhile isOctal
  let after := text.drop number.length
  if !number.isEmpty then
    if affected != 0 || !(after.isEmpty || after.head? == some ',') then none
    else
      (number? number).map fun bits => (⟨operator, every, bits, .given, every⟩, after)
  else
    match text with
    | 'u' :: rest => some (step 0o700 .copied, rest)
    | 'g' :: rest => some (step 0o70 .copied, rest)
    | 'o' :: rest => some (step 0o7 .copied, rest)
    | _ =>
      let chosen := text.takeWhile fun c => (letterBits c).isSome
      let source := if chosen.contains 'X' then Source.runnable else .given
      some (step (union (chosen.filterMap letterBits)) source, text.drop chosen.length)

/-- Reads steps, and more clauses after a comma. -/
def readSteps : Nat → Nat → List Char → Option (List Step)
  | 0, _, _ => none
  | fuel + 1, affected, text =>
    match text with
    | [] => none
    | operator :: rest =>
      if !isOperator operator then none
      else do
        let (step, rest) ← readStep affected operator rest
        let others ←
          match rest with
          | [] => some []
          | ',' :: rest =>
            let who := rest.takeWhile fun c => (whoBits c).isSome
            readSteps fuel (union (who.filterMap whoBits)) (rest.drop who.length)
          | _ => readSteps fuel affected rest
        return step :: others

/-- The change that a text stands for. -/
def parse? (text : String) : Option (List Step) :=
  let chars := text.toList
  if chars.head?.any isOctal then
    if !chars.all isOctal then none
    else
      (number? chars).map fun bits =>
        let mentioned := if chars.length < 5 then Nat.lor (Nat.land bits kept) 0o1777 else every
        [⟨'=', every, bits, .given, mentioned⟩]
  else
    let who := chars.takeWhile fun c => (whoBits c).isSome
    readSteps (chars.length + 1) (union (who.filterMap whoBits)) (chars.drop who.length)

end Crosscheck.Shell.Permission
