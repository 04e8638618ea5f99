import Crosscheck.Shell.Program

/-! # Cat

Files one after another. Lines can be numbered, blank ones squeezed, and what cannot be seen shown.
-/

namespace Crosscheck.Shell.Cat

open Act

/-- How bytes are shown. -/
structure Style where
  number : Bool := false
  /-- Only lines that are not blank get a number. -/
  nonblank : Bool := false
  squeeze : Bool := false
  ends : Bool := false
  tabs : Bool := false
  nonprinting : Bool := false
  deriving DecidableEq, Repr

def switches : Switches where
  letters := "AbeEnstTuv".toList
  longs :=
    [⟨"number-nonblank", 'b'⟩, ⟨"number", 'n'⟩, ⟨"squeeze-blank", 's'⟩, ⟨"show-nonprinting", 'v'⟩,
      ⟨"show-ends", 'E'⟩, ⟨"show-tabs", 'T'⟩, ⟨"show-all", 'A'⟩]

def styleOf (chosen : Switches.Chosen) : Style :=
  let any (letters : List Char) : Bool := letters.any chosen.has
  { number := any ['n', 'b']
    nonblank := any ['b']
    squeeze := any ['s']
    ends := any ['A', 'e', 'E']
    tabs := any ['A', 't', 'T']
    nonprinting := any ['A', 'e', 't', 'v'] }

/-- Where in the text the output stands. -/
inductive Position where
  | inLine
  /-- At the start of a line, after so many blank ones. -/
  | lineStart (blanks : Nat)
  deriving DecidableEq, Repr

structure State where
  position : Position := .lineStart 0
  line : Nat := 0
  /-- A carriage return has been held back. -/
  heldReturn : Bool := false

/-- A byte that cannot be seen, made visible. -/
def visible (b : UInt8) : Bytes :=
  let low (n : Nat) : List Nat :=
    if n < 32 then [94, n + 64] else if n = 127 then [94, 63] else [n]
  let n := b.toNat
  ((if n < 128 then low n else 77 :: 45 :: low (n - 128)) : List Nat).map UInt8.ofNat

/-- The number of a line, with the tab that follows it. -/
def label (line : Nat) : Bytes :=
  let digits := toString line
  Utf8.encode (String.ofList (List.replicate (6 - digits.length) ' ') ++ digits ++ "\t")

/-- A byte within a line. -/
def shown (style : Style) (b : UInt8) : Bytes :=
  if b = 9 then (if style.tabs then visible b else [b])
  else if style.nonprinting then visible b
  else [b]

/-- What is written for a byte. -/
def take (style : Style) (s : State) (b : UInt8) : Bytes × State :=
  let numbered (s : State) : Bytes × State :=
    if style.number then (label (s.line + 1), { s with line := s.line + 1 }) else ([], s)
  if b = 10 then
    let ending : Bytes := (if style.ends then [36] else []) ++ [10]
    match s.position with
    | .inLine =>
      let held : Bytes := if s.heldReturn then [94, 77] else []
      (held ++ ending, { s with position := .lineStart 0, heldReturn := false })
    | .lineStart blanks =>
      if style.squeeze && 1 ≤ blanks then (([] : Bytes), s)
      else
        let (label, s) := if style.nonblank then (([] : Bytes), s) else numbered s
        (label ++ ending, { s with position := .lineStart (blanks + 1) })
  else
    let held : Bytes := if s.heldReturn then [13] else []
    let (label, s) := if s.position = .inLine then (([] : Bytes), s) else numbered s
    let s := { s with position := .inLine, heldReturn := false }
    if b = 13 && style.ends && !style.nonprinting then
      (held ++ label, { s with heldReturn := true })
    else (held ++ label ++ shown style b, s)

def render (style : Style) (s : State) (bytes : Bytes) : Bytes × State :=
  if style = {} then (bytes, s)
  else
    let (chunks, s) := bytes.foldl
      (fun (chunks, s) b => let (chunk, s) := take style s b; (chunk :: chunks, s))
      (([] : List Bytes), s)
    (chunks.reverse.flatten, s)

/-! ## Copying -/

/-- Whether a descriptor reads a file to which the output goes, and there is something to read. -/
def isOutput (k : Kernel) (descriptor : Nat) : Bool :=
  match k.fileOf descriptor, k.fileOf 1 with
  | some (_, { endpoint := .file source _, offset, .. }), some (_, { endpoint := .file target _, .. }) =>
    source = target &&
      (match k.disk.node? source with
      | some (.file content _) => offset < content.length
      | _ => false)
  | _, _ => false

/-- Why copying has come to an end. -/
inductive Failure where
  | reading (reason : String)
  | writing (reason : String)

/-- Whether the system copies from file to file, so that nobody knows which of them is to blame for a
failure. -/
def isDirect (k : Kernel) (style : Style) (descriptor : Nat) : Bool :=
  match k.fileOf descriptor, k.fileOf 1 with
  | some (_, { endpoint := .file .., .. }),
    some (_, { endpoint := .file _ append, writes, .. }) => style = {} && writes && !append
  | _, _ => false

/-- Copies all there is to read; gives the state and the reason for a failure. -/
def copy (style : Style) (descriptor : Nat) : Nat → State → Act (State × Option Failure)
  | 0, _ => hang
  | fuel + 1, s => do
    match ← read descriptor 131072 with
    | .bytes bytes =>
      let (shown, s) := render style s bytes
      match ← write 1 shown with
      | none => copy style descriptor fuel s
      | some reason =>
        let direct := isDirect (← kernel) style descriptor
        return (s, some (if direct then .reading reason else .writing reason))
    | .blocked => copy style descriptor fuel s
    | .ended => return (s, none)
    | .unreadable reason => return (s, some (.reading reason))

/-- Copies what operands name. A failure to write ends the program. -/
def copyAll (start : Start) (style : Style) : List String → State → Nat → Act Nat
  | [], s, status => do
    if s.heldReturn then let _ ← write 1 [13]
    return status
  | path :: rest, s, status => do
    let opened ← if path = "-" then pure (Except.ok 0) else openInput path
    match opened with
    | .error fault =>
      start.say (start.bare path ++ ": " ++ fault.text)
      copyAll start style rest s 1
    | .ok descriptor =>
      if isOutput (← kernel) descriptor then
        start.say (start.bare path ++ ": input file is output file")
        if path != "-" then closeInput descriptor
        copyAll start style rest s 1
      else
        let (s, failure) ← copy style descriptor patience s
        if path != "-" then closeInput descriptor
        match failure with
        | none => copyAll start style rest s status
        | some (.writing reason) =>
          start.say ("write error: " ++ reason)
          return 1
        | some (.reading reason) =>
          start.say (start.bare path ++ ": " ++ reason)
          copyAll start style rest s 1

def run : Program := fun start => do
  match ← start.options switches with
  | none => return 1
  | some chosen =>
    let paths := if chosen.operands.isEmpty then ["-"] else chosen.operands
    let k ← kernel
    if (k.fileOf 1).isNone then
      start.say "standard output: Bad file descriptor"
      return 1
    else
      let status ← copyAll start (styleOf chosen) paths {} 0
      if paths.contains "-" && (k.fileOf 0).isNone then
        start.say "closing standard input: Bad file descriptor"
        return 1
      else return status

end Crosscheck.Shell.Cat
