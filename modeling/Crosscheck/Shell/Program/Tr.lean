import Crosscheck.Shell.Program

/-! # Tr

Bytes are replaced, deleted or squeezed. Which ones is told by sets, in which ranges, classes and
repetitions stand for many bytes. The places of a set count: a byte becomes the one at the same place
of the other set.
-/

namespace Crosscheck.Shell.Tr

open Act

/-! ## Sets -/

/-- A part of a set. -/
inductive Element where
  | byte (b : Nat)
  | range (first last : Nat)
  | category (name : String)
  | equivalent (b : Nat)
  /-- A byte so many times, or as often as there is room. -/
  | repeated (b : Nat) (count : Option Nat)
  deriving DecidableEq, Repr

def isUpper (b : Nat) : Bool := 65 ≤ b && b ≤ 90

def isLower (b : Nat) : Bool := 97 ≤ b && b ≤ 122

def isDigit (b : Nat) : Bool := 48 ≤ b && b ≤ 57

def isGraph (b : Nat) : Bool := 33 ≤ b && b ≤ 126

/-- The bytes of a category. -/
def category? (name : String) : Option (Nat → Bool) :=
  match name with
  | "alnum" => some fun b => isUpper b || isLower b || isDigit b
  | "alpha" => some fun b => isUpper b || isLower b
  | "blank" => some fun b => b == 32 || b == 9
  | "cntrl" => some fun b => b < 32 || b == 127
  | "digit" => some isDigit
  | "graph" => some isGraph
  | "lower" => some isLower
  | "print" => some fun b => isGraph b || b == 32
  | "punct" => some fun b => isGraph b && !(isUpper b || isLower b || isDigit b)
  | "space" => some fun b => b == 32 || (9 ≤ b && b ≤ 13)
  | "upper" => some isUpper
  | "xdigit" => some fun b => isDigit b || (65 ≤ b && b ≤ 70) || (97 ≤ b && b ≤ 102)
  | _ => none

/-- The bytes of a part in order. -/
def Element.bytes : Element → List Nat
  | .byte b | .equivalent b => [b]
  | .range first last => (List.range (last + 1 - first)).map (· + first)
  | .category name => (List.range 256).filter ((category? name).getD fun _ => false)
  | .repeated b count => List.replicate (min (count.getD 0) 65536) b

/-- How many bytes a part stands for. -/
def Element.size : Element → Nat
  | .repeated _ count => count.getD 0
  | e => e.bytes.length

def Element.isCategory : Element → Bool
  | .category _ => true
  | _ => false

/-- A category of letters that have a counterpart. -/
def Element.isCased : Element → Bool
  | .category name => name == "upper" || name == "lower"
  | _ => false

def total (elements : List Element) : Nat :=
  elements.foldl (fun n e => n + e.size) 0

/-! ## Reading sets -/

/-- A byte of a set, and whether a backslash stood before it. -/
abbrev Sign := Nat × Bool

/-- The value of the escape after a backslash, how many characters it takes, and a warning. -/
def escape (rest : List Char) : Nat × Nat × Option String :=
  let octal (c : Char) : Option Nat := (Number.digit? c).filter (· < 8)
  let digits := (rest.take 3).takeWhile fun c => (octal c).isSome
  match digits.map fun c => (octal c).getD 0 with
  | [x, y, z] =>
    let value := 64 * x + 8 * y + z
    if value < 256 then (value, 3, none)
    else
      let text (cs : List Char) : String := String.ofList cs
      (8 * x + y, 2,
        some ("the ambiguous octal escape \\" ++ text digits
          ++ " is being\n\tinterpreted as the 2-byte sequence \\0" ++ text (digits.take 2) ++ ", "
          ++ text (digits.drop 2)))
  | [x, y] => (8 * x + y, 2, none)
  | [x] => (x, 1, none)
  | _ =>
    match rest.headD '\\' with
    | 'a' => (7, 1, none)
    | 'b' => (8, 1, none)
    | 'f' => (12, 1, none)
    | 'n' => (10, 1, none)
    | 'r' => (13, 1, none)
    | 't' => (9, 1, none)
    | 'v' => (11, 1, none)
    | c => (c.toNat, 1, none)

/-- Resolves escapes; warnings come with them. -/
def unquote : Nat → List Char → List Sign × List String
  | 0, _ => ([], [])
  | _, [] => ([], [])
  | _, ['\\'] => ([(92, false)], ["an unescaped backslash at end of string is not portable"])
  | fuel + 1, '\\' :: rest =>
    let (value, used, warning) := escape rest
    let (signs, warnings) := unquote fuel (rest.drop used)
    ((value, true) :: signs, warning.toList ++ warnings)
  | fuel + 1, c :: rest =>
    let (signs, warnings) := unquote fuel rest
    ((c.toNat, false) :: signs, warnings)

def isSign (signs : List Sign) (c : Char) : Bool :=
  signs.head? == some (c.toNat, false)

def printable (b : Nat) : String :=
  if 32 ≤ b && b < 127 then String.singleton (Char.ofNat b)
  else "\\" ++ String.ofList (Quotation.octal (Char.ofNat b))

def printableText (signs : List Sign) : String :=
  String.join (signs.map fun s => if s.1 = 92 then "\\\\" else printable s.1)

/-- What is wrong with sets. -/
inductive Fault where
  /-- A message, and a name in it. -/
  | named (before name after : String)
  | plain (text : String)

/-- The signs before a delimiter and a closing bracket, and what follows these. -/
def beforeDelimiter (delimiter : Char) : List Sign → Option (List Sign × List Sign)
  | [] => none
  | s :: rest =>
    if s == (delimiter.toNat, false) && isSign rest ']' then some ([], rest.tail)
    else (beforeDelimiter delimiter rest).map fun (inner, after) => (s :: inner, after)

/-- Whether a star, digits and a closing bracket come next. -/
def looksRepeated (signs : List Sign) : Bool :=
  isSign signs '*' && isSign (signs.tail.dropWhile fun s => isDigit s.1) ']'

/-- A repetition after its opening bracket: the part, and what follows it. -/
def repetition (signs : List Sign) : Except Fault (Option (Element × List Sign)) :=
  match signs with
  | (b, _) :: rest =>
    if !isSign rest '*' then .ok none
    else
      let inner := rest.tail.takeWhile fun s => !s.2 && s.1 != 93
      let after := rest.tail.drop inner.length
      if !isSign after ']' then .ok none
      else
        let text := inner.map fun s => Char.ofNat s.1
        if text.isEmpty then .ok (some (.repeated b none, after.tail))
        else
          let radix := if text.head? == some '0' then 8 else 10
          match Number.natural? radix text with
          | some n =>
            if n < UInt64.size - 1 then
              .ok (some (.repeated b (if n = 0 then none else some n), after.tail))
            else
              .error (.named "invalid repeat count " (printableText inner) " in [c*n] construct")
          | none =>
            .error (.named "invalid repeat count " (printableText inner) " in [c*n] construct")
  | [] => .ok none

/-- A category or an equivalence after its opening bracket. Nothing means that it may be a
repetition. -/
def bracketed (signs : List Sign) : Except Fault (Option (Element × List Sign)) :=
  let delimiter := if isSign signs ':' then some ':' else if isSign signs '=' then some '=' else none
  match delimiter with
  | none => .ok none
  | some delimiter =>
    match beforeDelimiter delimiter signs.tail with
    | none => .ok none
    | some (inner, after) =>
      let text := String.ofList (inner.map fun s => Char.ofNat s.1)
      let colon := delimiter == ':'
      if inner.isEmpty then
        .error (.plain (if colon then "missing character class name '[::]'"
          else "missing equivalence class character '[==]'"))
      else if colon && (category? text).isSome then .ok (some (.category text, after))
      else if !colon && inner.length = 1 then
        .ok (some (.equivalent ((inner.map Prod.fst).headD 0), after))
      else if looksRepeated signs.tail then .ok none
      else if colon then .error (.named "invalid character class " (printableText inner) "")
      else
        .error (.plain (printableText inner
          ++ ": equivalence class operand must be a single character"))

/-- The parts of a set. -/
def elements : Nat → List Sign → Except Fault (List Element)
  | 0, _ => .ok []
  | _, [] => .ok []
  | fuel + 1, s :: rest => do
    let two := 2 ≤ rest.length
    let special ←
      if two && s == (91, false) then
        match ← bracketed rest with
        | some found => pure (some found)
        | none => repetition rest
      else pure none
    match special with
    | some (element, after) => return element :: (← elements fuel after)
    | none =>
      match rest with
      | d :: last :: others =>
        if d == (45, false) then
          if last.1 < s.1 then
            .error (.plain ("range-endpoints of '" ++ printable s.1 ++ "-" ++ printable last.1
              ++ "' are in reverse collating sequence order"))
          else return .range s.1 last.1 :: (← elements fuel others)
        else return .byte s.1 :: (← elements fuel rest)
      | rest => return .byte s.1 :: (← elements fuel rest)

/-! ## Walking along sets -/

/-- A byte on the way along a set. -/
structure Step where
  byte : Nat
  /-- The byte is the first of its part. -/
  fresh : Bool
  cased : Option String

/-- What is left of a set: bytes of the present part, then others. -/
structure Walk where
  current : List Nat := []
  fresh : Bool := true
  cased : Option String := none
  rest : List Element

namespace Walk

def casedName (e : Element) : Option String :=
  match e with
  | .category name => if e.isCased then some name else none
  | _ => none

/-- Goes to the next part that has bytes. -/
def settle : List Element → Walk
  | [] => { rest := [] }
  | e :: rest =>
    if e.bytes.isEmpty then settle rest
    else { current := e.bytes, fresh := true, cased := casedName e, rest }

def start (elements : List Element) : Walk := settle elements

def next (w : Walk) : Option Step × Walk :=
  match w.current with
  | [] => (none, w)
  | b :: others =>
    let step : Step := ⟨b, w.fresh, w.cased⟩
    (some step,
      if others.isEmpty then settle w.rest else { w with current := others, fresh := false })

/-- Leaves the present part, unless a new one has just begun. -/
def skip (w : Walk) : Walk :=
  if w.fresh then w else settle w.rest

end Walk

/-- Whether cased categories of the second set stand beside such ones of the first, and how many of
them there are. -/
def aligned : Nat → Walk → Walk → Nat → Option Nat
  | 0, _, _, count => some count
  | fuel + 1, one, two, count =>
    match one.next, two.next with
    | (a, one), (b, two) =>
      let cased := b.any (·.cased.isSome)
      let fits := a.any fun s => s.fresh && s.cased.isSome
      if b.any (fun s => s.fresh && s.cased.isSome) && !fits then none
      else
        let (one, two) := if cased then (one.skip, two.skip) else (one, two)
        let count := if cased then count + 1 else count
        if a.isNone || b.isNone then some count else aligned fuel one two count

/-! ## Checking sets -/

structure Wish where
  complement : Bool
  delete : Bool
  squeeze : Bool
  truncate : Bool

/-- The bytes that are not in a set. -/
def outside (elements : List Element) : List Nat :=
  let inside := elements.flatMap Element.bytes
  (List.range 256).filter (!inside.contains ·)

def indefinite (elements : List Element) : Nat :=
  elements.countP fun e =>
    match e with
    | .repeated _ none => true
    | _ => false

/-- Lets an indefinite repetition fill a set up. -/
def fill (elements : List Element) (size : Nat) : List Element :=
  let room := size - total elements
  elements.map fun e =>
    match e with
    | .repeated b none => .repeated b (some room)
    | e => e

/-- The last byte of a set, which is repeated if the set is too small. -/
def lastByte (elements : List Element) : Except Fault Nat :=
  match elements.getLast? with
  | some (.category _) =>
    .error (.plain ("when translating with string1 longer than string2,\n"
      ++ "the latter string must not end with a character class"))
  | some (.repeated b _) | some (.byte b) | some (.equivalent b) | some (.range _ b) => .ok b
  | none => .ok 0

/-- Checks two sets between which bytes are replaced; gives the second as it is to be used. -/
def checkPair (wish : Wish) (one two : List Element) : Except Fault (List Element) := do
  let size := if wish.complement then (outside one).length else total one
  let refuse (text : String) : Except Fault Unit := .error (.plain text)
  if 1 < indefinite two then refuse "only one [c*] repeat construct may appear in string2"
  let two := if total two ≤ size && indefinite two = 1 then fill two size else two
  if two.any (fun e => match e with | .equivalent _ => true | _ => false) then
    refuse "[=c=] expressions may not appear in string2 when translating"
  if two.any (fun e => e.isCategory && !e.isCased) then
    refuse ("when translating, the only character classes that may appear in\n"
      ++ "string2 are 'upper' and 'lower'")
  let pairs ←
    if wish.complement || !two.any Element.isCategory then pure 0
    else
      match aligned (size + total two + 2) (.start one) (.start two) 0 with
      | some pairs => pure pairs
      | none => .error (.plain "misaligned [:upper:] and/or [:lower:] construct")
  let size := size - 25 * pairs
  let other := total two - 25 * pairs
  let extended ←
    if other < size && !wish.truncate then do
      if other = 0 then refuse "when not truncating set1, string2 must be non-empty"
      pure (two ++ [.repeated (← lastByte two) (some (size - other))])
    else pure two
  let same := match extended.flatMap Element.bytes with
    | [] => true
    | b :: rest => rest.all (· == b)
  if wish.complement && one.any Element.isCategory
      && !((size == other || (other < size && !wish.truncate)) && same) then
    refuse ("when translating with complemented character classes,\n"
      ++ "string2 must map all characters in the domain to one")
  return extended

/-! ## Tables -/

/-- What each byte becomes. -/
def replacements : Nat → Walk → Walk → (Nat → Nat) → Nat → Nat
  | 0, _, _, table => table
  | fuel + 1, one, two, table =>
    match one.next, two.next with
    | (some a, one), (some b, two) =>
      match a.cased, b.cased with
      | some "lower", some "upper" =>
        replacements fuel one.skip two.skip fun n => if isLower n then n - 32 else table n
      | some "upper", some "lower" =>
        replacements fuel one.skip two.skip fun n => if isUpper n then n + 32 else table n
      | _, _ => replacements fuel one two fun n => if n = a.byte then b.byte else table n
    | _, _ => table

/-- What each byte becomes, as a table. -/
def tableOf (wish : Wish) (one two : List Element) : Array UInt8 :=
  let change : Nat → Nat :=
    if wish.complement then
      let pairs := (outside one).zip (two.flatMap Element.bytes)
      fun n => (pairs.lookup n).getD n
    else replacements (total one + total two + 2) (.start one) (.start two) id
  ((List.range 256).map fun n => UInt8.ofNat (change n)).toArray

def membership (bytes : List Nat) : Array Bool :=
  ((List.range 256).map bytes.contains).toArray

/-! ## Copying -/

/-- What is done to the bytes that are read. -/
structure Work where
  deleted : Array Bool := #[]
  changed : Array UInt8 := #[]
  squeezed : Array Bool := #[]

def isIn (set : Array Bool) (b : UInt8) : Bool := set[b.toNat]?.getD false

/-- Keeps one of equal bytes in a row, if they are in a set. -/
def squeeze (set : Array Bool) (last : Option UInt8) (bytes : Bytes) : Bytes × Option UInt8 :=
  let (kept, last) := bytes.foldl
    (fun (kept, last) b =>
      if last == some b && isIn set b then (kept, last) else (b :: kept, some b))
    (([] : Bytes), last)
  (kept.reverse, last)

def Work.apply (work : Work) (last : Option UInt8) (bytes : Bytes) : Bytes × Option UInt8 :=
  let bytes := if work.deleted.isEmpty then bytes else bytes.filter (!isIn work.deleted ·)
  let bytes := if work.changed.isEmpty then bytes
    else bytes.map fun b => work.changed[b.toNat]?.getD b
  if work.squeezed.isEmpty then (bytes, last) else squeeze work.squeezed last bytes

def copy (start : Start) (work : Work) : Nat → Buffer → Option UInt8 → Act Nat
  | 0, _, _ => hang
  | fuel + 1, buffer, last => do
    match ← read 0 8192 with
    | .bytes bytes =>
      let (shown, last) := work.apply last bytes
      match ← buffer.put shown with
      | .ok buffer => copy start work fuel buffer last
      | .error reason =>
        start.say ("write error: " ++ reason)
        return 1
    | .blocked => copy start work fuel buffer last
    | .ended => start.close buffer 0
    | .unreadable reason =>
      start.sayAfter buffer ("read error: " ++ reason)
      return 1

/-! ## The program -/

def switches : Switches where
  letters := "AcCdst".toList
  longs :=
    [⟨"complement", 'c'⟩, ⟨"delete", 'd'⟩, ⟨"squeeze-repeats", 's'⟩, ⟨"truncate-set1", 't'⟩]
  first := true

/-- What is wrong with the number of operands. -/
def operandFault (start : Start) (wish : Wish) (operands : List String) : Option String :=
  let least := if wish.delete == wish.squeeze then 2 else 1
  let most := if wish.delete && !wish.squeeze then 1 else 2
  if operands.isEmpty then some "missing operand"
  else if operands.length < least then
    some ("missing operand after " ++ start.marked (operands.getLastD "") ++ "\n"
      ++ if wish.squeeze then "Two strings must be given when both deleting and squeezing repeats."
        else "Two strings must be given when translating.")
  else if most < operands.length then
    some ("extra operand " ++ start.marked (operands.getD most "")
      ++ if operands.length = 2 then
          "\nOnly one string may be given when deleting without squeezing repeats."
        else "")
  else none

/-- What is to be done with the sets of the operands. -/
def workOf (wish : Wish) (one : List Element) (two : Option (List Element)) :
    Except Fault Work := do
  let refuse (wrong : Bool) (text : String) : Except Fault Unit :=
    if wrong then .error (.plain text) else .ok ()
  refuse (0 < indefinite one) "the [c*] repeat construct may not appear in string1"
  let first := if wish.complement then outside one else one.flatMap Element.bytes
  match two with
  | none =>
    return if wish.delete then { deleted := membership first } else { squeezed := membership first }
  | some two =>
    if wish.delete then
      refuse (1 < indefinite two) "only one [c*] repeat construct may appear in string2"
      refuse (0 < indefinite two) "the [c*] construct may appear in string2 only when translating"
      return { deleted := membership first, squeezed := membership (two.flatMap Element.bytes) }
    else
      let two ← checkPair wish one two
      let squeezed := if wish.squeeze then membership (two.flatMap Element.bytes) else #[]
      return { changed := tableOf wish one two, squeezed }

/-- Reads a set; warnings are said. -/
def readSet (start : Start) (text : String) : Act (Except Fault (List Element)) := do
  let (signs, warnings) := unquote (text.length + 1) text.toList
  for warning in warnings do start.say ("warning: " ++ warning)
  return elements (signs.length + 1) signs

def run : Program := fun start => do
  match ← start.options switches with
  | none => return 1
  | some chosen =>
    let wish : Wish :=
      { complement := chosen.has 'c' || chosen.has 'C'
        delete := chosen.has 'd'
        squeeze := chosen.has 's'
        truncate := chosen.has 't' }
    let fail (fault : Fault) : Act Nat := do
      match fault with
      | .named before name after => start.say (before ++ start.marked name ++ after)
      | .plain text => start.say text
      return 1
    match operandFault start wish chosen.operands, chosen.operands with
    | some text, _ => start.refuse text
    | none, [] => return 1
    | none, first :: others =>
      match ← readSet start first with
      | .error fault => fail fault
      | .ok one =>
        let two ←
          match others with
          | [] => pure (Except.ok none)
          | second :: _ => pure ((← readSet start second).map some)
        match two with
        | .error fault => fail fault
        | .ok two =>
          match workOf wish one two with
          | .error fault => fail fault
          | .ok work => copy start work patience {} none

end Crosscheck.Shell.Tr
