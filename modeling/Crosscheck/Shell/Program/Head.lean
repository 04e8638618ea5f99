import Crosscheck.Shell.Program
import Crosscheck.Shell.Program.Amount

/-! # Head

The start of files: so many lines or bytes, or all but so many. What was read too far from a file is
given back.
-/

namespace Crosscheck.Shell.Head

open Act

structure Wish where
  lines : Bool := true
  count : Nat := 10
  butLast : Bool := false
  /-- Whether names are shown; otherwise that depends on how many there are. -/
  titles : Option Bool := none
  /-- The byte that ends a line. -/
  ending : UInt8 := 10

def switches : Switches where
  letters := "qvz0123456789".toList
  valued := ['c', 'n']
  longs :=
    [⟨"bytes", 'c'⟩, ⟨"lines", 'n'⟩, ⟨"quiet", 'q'⟩, ⟨"silent", 'q'⟩, ⟨"verbose", 'v'⟩,
      ⟨"zero-terminated", 'z'⟩]

/-- Why arguments do not say what to copy. -/
inductive Fault where
  /-- Something else is asked for. -/
  | help
  | amount (lines : Bool) (text : String) (fault : Amount.Fault)
  | option (text : String)

def counted (lines : Bool) (text : String) : Except Fault Nat :=
  (Amount.ofText text).mapError (.amount lines text)

/-- Takes one option into account. -/
def take (wish : Wish) (option : Char × String) : Except Fault Wish := do
  let amount (lines : Bool) : Except Fault Wish := do
    let butLast := option.2.toList.head? == some '-'
    let text := if butLast then String.ofList option.2.toList.tail else option.2
    return { wish with lines, count := ← counted lines text, butLast }
  match option.1 with
  | 'c' => amount false
  | 'n' => amount true
  | 'q' => return { wish with titles := some false }
  | 'v' => return { wish with titles := some true }
  | 'z' => return { wish with ending := 0 }
  | c =>
    if c == Switches.help || c == Switches.version then .error .help
    else .error (.option ("invalid trailing option -- " ++ String.singleton c))

/-- Letters after a number that comes first of all arguments. -/
def trailing (wish : Wish) (unit : List Char) : List Char → Except Fault (Wish × List Char)
  | [] => .ok (wish, unit)
  | c :: rest =>
    match c with
    | 'c' => trailing { wish with lines := false } [] rest
    | 'b' | 'k' | 'm' => trailing { wish with lines := false } [c] rest
    | 'l' => trailing { wish with lines := true } unit rest
    | 'q' => trailing { wish with titles := some false } unit rest
    | 'v' => trailing { wish with titles := some true } unit rest
    | 'z' => trailing { wish with ending := 0 } unit rest
    | c => .error (.option ("invalid trailing option -- " ++ String.singleton c))

/-- What the arguments ask for, and the operands. -/
def wishOf (args : List String) : Except Fault (Wish × List String) := do
  let (wish, args) ←
    match args with
    | first :: rest =>
      match first.toList with
      | '-' :: d :: others => do
        if d.isDigit then
          let digits := d :: others.takeWhile Char.isDigit
          let (wish, unit) ← trailing {} [] (others.drop (digits.length - 1))
          let count ← counted wish.lines (String.ofList (digits ++ unit))
          pure ({ wish with count }, rest)
        else pure ({}, args)
      | _ => pure ({}, args)
    | [] => pure ({}, args)
  let reading := switches.parse args
  let wish ← reading.chosen.options.foldlM take wish
  match reading.wrong with
  | some text => .error (.option text)
  | none => return (wish, reading.chosen.operands)

/-! ## Parts of texts -/

/-- How many bytes of a chunk are within so many lines, and how many lines are still wanted. -/
def lineBytes (ending : UInt8) : Nat → Nat → Bytes → Nat × Nat
  | size, 0, _ => (size, 0)
  | size, left, [] => (size, left)
  | size, left + 1, b :: rest =>
    if b = ending then lineBytes ending (size + 1) left rest
    else lineBytes ending (size + 1) (left + 1) rest

/-- All but the end of a text. A last line need not be ended. -/
def dropEnd (lines : Bool) (ending : UInt8) (count : Nat) (text : Bytes) : Bytes :=
  if lines then
    let total := text.count ending + (if text.getLast?.any (· != ending) then 1 else 0)
    text.take (lineBytes ending 0 (total - count) text).1
  else text.take (text.length - count)

/-! ## Copying -/

/-- Gives back what was read too far, if that can be done. -/
def giveBack (descriptor count : Nat) : Act Unit :=
  change fun k =>
    match k.fileOf descriptor with
    | some (index, file) =>
      match file.endpoint with
      | .file .. => k.setFile index { file with offset := file.offset - count, ahead := ([], 0) }
      | _ => k
    | none => k

/-- Reads all there is. -/
def readAll (descriptor : Nat) : Nat → List Bytes → Act (Except String Bytes)
  | 0, _ => hang
  | fuel + 1, seen => do
    match ← read descriptor 8192 with
    | .bytes bytes => readAll descriptor fuel (bytes :: seen)
    | .blocked => readAll descriptor fuel seen
    | .ended => return .ok seen.reverse.flatten
    | .unreadable reason => return .error reason

/-- Why a copy ended early. -/
inductive Failure where
  | reading (reason : String)
  | writing (reason : String)

/-- Copies so many bytes or lines. -/
def copyStart (wish : Wish) (descriptor : Nat) :
    Nat → Buffer → Nat → Act (Buffer × Option Failure)
  | 0, _, _ => hang
  | _, buffer, 0 => return (buffer, none)
  | fuel + 1, buffer, count => do
    match ← read descriptor (if wish.lines then 8192 else min count 8192) with
    | .bytes chunk =>
      let (size, left) :=
        if wish.lines then lineBytes wish.ending 0 count chunk
        else (chunk.length, count - chunk.length)
      let taken := chunk.take size
      if left = 0 then giveBack descriptor (chunk.length - size)
      match ← buffer.put taken with
      | .error reason => return ({}, some (.writing reason))
      | .ok buffer => copyStart wish descriptor fuel buffer left
    | .blocked => copyStart wish descriptor fuel buffer count
    | .ended => return (buffer, none)
    | .unreadable reason => return (buffer, some (.reading reason))

def copy (wish : Wish) (descriptor : Nat) (buffer : Buffer) : Act (Buffer × Option Failure) := do
  if wish.butLast then
    match ← readAll descriptor patience [] with
    | .error reason => return (buffer, some (.reading reason))
    | .ok text =>
      let taken := dropEnd wish.lines wish.ending wish.count text
      giveBack descriptor (text.length - taken.length)
      match ← buffer.put taken with
      | .error reason => return ({}, some (.writing reason))
      | .ok buffer => return (buffer, none)
  else copyStart wish descriptor patience buffer wish.count

/-- Copies from the operands in order. A failure to write ends the program. -/
def copyAll (start : Start) (wish : Wish) (titles : Bool) :
    List String → Buffer → Bool → Nat → Act Nat
  | [], buffer, _, status => start.close buffer status
  | path :: rest, buffer, first, status => do
    let title := if path = "-" then "standard input" else path
    let opened ← if path = "-" then pure (Except.ok 0) else openInput path
    match opened with
    | .error fault =>
      start.sayAfter buffer ("cannot open " ++ start.quoted path ++ " for reading: " ++ fault.text)
      copyAll start wish titles rest { buffer with pending := [] } first 1
    | .ok descriptor =>
      let heading := (if first then "" else "\n") ++ "==> " ++ title ++ " <==\n"
      let buffer ←
        if titles then pure ((← buffer.put (Raw.toBytes heading.toList)).toOption.getD {})
        else pure buffer
      let (buffer, failure) ← copy wish descriptor buffer
      if path != "-" then closeInput descriptor
      match failure with
      | none => copyAll start wish titles rest buffer false status
      | some (.reading reason) =>
        start.sayAfter buffer ("error reading " ++ start.quoted title ++ ": " ++ reason)
        copyAll start wish titles rest { buffer with pending := [] } false 1
      | some (.writing reason) =>
        start.say ("error writing " ++ start.quoted "standard output" ++ ": " ++ reason)
        return 1

def run : Program := fun start => do
  match wishOf start.args with
  | .error .help => return 0
  | .error (.option text) => start.refuse text
  | .error (.amount lines text fault) =>
    let reason := if fault = .tooLarge then ": Value too large for defined data type" else ""
    let what := if lines then "lines" else "bytes"
    start.say ("invalid number of " ++ what ++ ": " ++ start.marked text ++ reason)
    return 1
  | .ok (wish, operands) =>
    let titles := wish.titles.getD (1 < operands.length)
    let paths := if operands.isEmpty then ["-"] else operands
    let closed := ((← kernel).fileOf 0).isNone
    let status ← copyAll start wish titles paths {} true 0
    if paths.contains "-" && closed then
      start.say "-: Bad file descriptor"
      return 1
    else return status

end Crosscheck.Shell.Head
