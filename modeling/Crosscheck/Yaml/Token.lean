import Crosscheck.Yaml.TagText

/-! # Tokens

Tokens are taken from the text one at a time. A scalar or a flow collection may turn out to be a
mapping key when a colon follows it on the same line; its first token is held back until that is
settled, because a key token has to be put before it.
-/

namespace Crosscheck.Yaml

inductive TokenKind where
  | streamStart
  | streamEnd
  | directive (directive : Directive)
  | documentStart
  | documentEnd
  | blockSequenceStart
  | blockMappingStart
  | blockEnd
  | flowSequenceStart
  | flowSequenceEnd
  | flowMappingStart
  | flowMappingEnd
  | blockEntry
  | flowEntry
  | key
  | value
  | alias (name : String)
  | anchor (name : String)
  | tag (handle suffix : String)
  | scalar (text : String) (style : Style)
  deriving DecidableEq, Repr

structure Token where
  kind : TokenKind
  start : Mark
  stop : Mark

/-- A place where a mapping key may have started: the number of its first token and its mark. A
required one must become a key. -/
structure Candidate where
  number : Nat
  mark : Mark
  required : Bool

/-- The text as tokens: those that are ready, and what is known about the text read so far. -/
structure Tokens where
  cursor : Cursor
  /-- More than the length of the text. -/
  bound : Nat
  ready : List Token := []
  /-- How many tokens have been handed out. -/
  taken : Nat := 0
  started : Bool := false
  keyAllowed : Bool := false
  /-- One entry for each open flow collection, innermost first, and one for the block context. -/
  candidates : List (Option Candidate) := []
  /-- How many flow collections are open. -/
  flow : Nat := 0
  indent : Int := -1
  indents : List Int := []

namespace Tokens

def ofText (text : List Char) : Tokens :=
  { cursor := Cursor.ofText text, bound := text.length + 2 }

def push (t : Tokens) (kind : TokenKind) (start stop : Mark) : Tokens :=
  { t with ready := t.ready ++ [⟨kind, start, stop⟩] }

/-- Puts a token before the one with the given number. -/
def insert (t : Tokens) (number : Nat) (kind : TokenKind) (mark : Mark) : Tokens :=
  let (front, back) := t.ready.splitAt (number - t.taken)
  { t with ready := front ++ ⟨kind, mark, mark⟩ :: back }

/-! ## Key candidates -/

/-- Drops the innermost candidate; a required one cannot be dropped. -/
def dropCandidate (t : Tokens) : Option Tokens :=
  match t.candidates with
  | some candidate :: rest =>
    if candidate.required then none else some { t with candidates := none :: rest }
  | _ => some t

/-- Notes that a key may start here. -/
def saveCandidate (t : Tokens) : Option Tokens :=
  if t.keyAllowed then
    let candidate : Candidate :=
      { number := t.taken + t.ready.length
        mark := t.cursor.mark
        required := t.flow == 0 && t.indent == (t.cursor.mark.column : Int) }
    t.dropCandidate.map fun t =>
      { t with candidates := some candidate :: t.candidates.tail }
  else some t

/-- A key ends on its line and within 1024 bytes. -/
def isStale (t : Tokens) (candidate : Candidate) : Bool :=
  candidate.mark.line < t.cursor.mark.line || candidate.mark.index + 1024 < t.cursor.mark.index

/-- Drops all candidates that have become too long. -/
def dropStale (t : Tokens) : Option Tokens :=
  if t.candidates.any fun c => c.any fun c => c.required && t.isStale c then none
  else some { t with candidates := t.candidates.map fun c => c.filter fun c => !t.isStale c }

/-! ## Indentation -/

/-- Opens a block collection if the column is further in than the current one. The token that
starts it comes at the end, or before the token with the given number. -/
def openBlock (t : Tokens) (column : Nat) (number : Option Nat) (kind : TokenKind) (mark : Mark) :
    Tokens :=
  if t.flow = 0 ∧ t.indent < (column : Int) then
    let t := { t with indents := t.indent :: t.indents, indent := (column : Int) }
    match number with
    | none => t.push kind mark mark
    | some number => t.insert number kind mark
  else t

/-- Closes the block collections that are further in than the column. -/
def closeBlocks (column : Int) : List Int → Tokens → Tokens
  | [], t => t
  | outer :: rest, t =>
    if t.flow = 0 ∧ column < t.indent then
      closeBlocks column rest
        { t.push .blockEnd t.cursor.mark t.cursor.mark with indent := outer, indents := rest }
    else t

def closeTo (t : Tokens) (column : Int) : Tokens :=
  closeBlocks column t.indents t

/-! ## Taking tokens from the text -/

/-- Steps over white space, comments and breaks. A byte order mark may open a line. Tabs do not
count as white space where a key could start. -/
def skipToToken : Nat → Tokens → Option Tokens
  | 0, t => some t
  | fuel + 1, t =>
    let c := t.cursor
    let c := if c.mark.column == 0 && c.sees '\ufeff' then c.skip else c
    let c := c.skipWhile fun char =>
      char == ' ' || (char == '\t' && (t.flow != 0 || !t.keyAllowed))
    let c := if c.sees '#' then c.skipWhile (!isBreak ·) else c
    if c.atBreak then
      if c.lacks 2 then none
      else
        skipToToken fuel
          { t with cursor := c.readBreak.2, keyAllowed := t.keyAllowed || t.flow == 0 }
    else some { t with cursor := c }

/-- Takes `count` characters as a token. -/
def take (t : Tokens) (kind : TokenKind) (count : Nat) : Tokens :=
  let start := t.cursor.mark
  let cursor := t.cursor.skip count
  { t with cursor := cursor }.push kind start cursor.mark

/-- A token whose text has been read up to a new place. -/
def finish (t : Tokens) (kind : TokenKind) (cursor : Cursor) : Tokens :=
  let start := t.cursor.mark
  { t with cursor := cursor }.push kind start cursor.mark

def fetchStreamEnd (t : Tokens) : Option Tokens := do
  let mark := t.cursor.mark
  let mark := if mark.column = 0 then mark else { mark with column := 0, line := mark.line + 1 }
  let t := { t with cursor := { t.cursor with mark := mark } }
  let t ← (t.closeTo (-1)).dropCandidate
  return { t with keyAllowed := false }.push .streamEnd mark mark

def fetchDirective (t : Tokens) : Option Tokens := do
  let t ← (t.closeTo (-1)).dropCandidate
  let (directive, cursor) ← readDirective t.bound t.cursor.skip
  return { t with keyAllowed := false }.finish (.directive directive) cursor

def fetchDocumentMark (t : Tokens) (kind : TokenKind) : Option Tokens := do
  let t ← (t.closeTo (-1)).dropCandidate
  return { t with keyAllowed := false }.take kind 3

def fetchFlowStart (t : Tokens) (kind : TokenKind) : Option Tokens := do
  let t ← t.saveCandidate
  let t := { t with candidates := none :: t.candidates, flow := t.flow + 1, keyAllowed := true }
  return t.take kind 1

def fetchFlowEnd (t : Tokens) (kind : TokenKind) : Option Tokens := do
  let t ← t.dropCandidate
  let t :=
    if t.flow = 0 then t else { t with flow := t.flow - 1, candidates := t.candidates.tail }
  return { t with keyAllowed := false }.take kind 1

def fetchFlowEntry (t : Tokens) : Option Tokens := do
  let t ← t.dropCandidate
  return { t with keyAllowed := true }.take .flowEntry 1

def fetchBlockEntry (t : Tokens) : Option Tokens := do
  if t.flow = 0 && !t.keyAllowed then none
  let mark := t.cursor.mark
  let t ← (t.openBlock mark.column none .blockSequenceStart mark).dropCandidate
  return { t with keyAllowed := true }.take .blockEntry 1

def fetchKey (t : Tokens) : Option Tokens := do
  if t.flow = 0 && !t.keyAllowed then none
  let mark := t.cursor.mark
  let t ← (t.openBlock mark.column none .blockMappingStart mark).dropCandidate
  return { t with keyAllowed := t.flow == 0 }.take .key 1

def fetchValue (t : Tokens) : Option Tokens :=
  match t.candidates with
  | some candidate :: rest =>
    let t := t.insert candidate.number .key candidate.mark
    let t := t.openBlock candidate.mark.column (some candidate.number) .blockMappingStart
      candidate.mark
    some ({ t with candidates := none :: rest, keyAllowed := false }.take .value 1)
  | _ =>
    if t.flow = 0 && !t.keyAllowed then none
    else
      let mark := t.cursor.mark
      let t := t.openBlock mark.column none .blockMappingStart mark
      some ({ t with keyAllowed := t.flow == 0 }.take .value 1)

def fetchAnchor (t : Tokens) (kind : String → TokenKind) : Option Tokens := do
  let t ← t.saveCandidate
  let (name, cursor) ← readAnchor t.cursor.skip
  return { t with keyAllowed := false }.finish (kind name) cursor

def fetchTag (t : Tokens) : Option Tokens := do
  let t ← t.saveCandidate
  let (handle, suffix, cursor) ← readTag (t.flow != 0) t.bound t.cursor
  return { t with keyAllowed := false }.finish (.tag handle suffix) cursor

def fetchBlockScalar (t : Tokens) (style : Style) : Option Tokens := do
  let t ← t.dropCandidate
  let (text, cursor) ← readBlock (style == .literal) t.indent t.bound t.cursor.skip
  return { t with keyAllowed := true }.finish (.scalar (String.ofList text.reverse) style) cursor

def fetchQuoted (t : Tokens) (style : Style) : Option Tokens := do
  let t ← t.saveCandidate
  let (text, cursor) ←
    readQuoted (style == .singleQuoted) t.bound [] t.cursor.skip
  return { t with keyAllowed := false }.finish (.scalar (String.ofList text.reverse) style) cursor

def fetchPlain (t : Tokens) : Option Tokens := do
  let t ← t.saveCandidate
  let (text, broken, cursor) ←
    readPlain (t.flow != 0) (t.indent + 1) t.bound [] {} t.cursor
  return { t with keyAllowed := broken }.finish (.scalar (String.ofList text.reverse) .plain) cursor

/-- Whether a plain scalar can start here. -/
def plainStarts (t : Tokens) : Bool :=
  let c := t.cursor
  match c.peek? with
  | none => false
  | some char =>
    if char == '-' then !c.atGap 1
    else if char == '?' || char == ':' then t.flow == 0 && !c.atGapOrEnd 1
    else
      !(isGap char || isBreak char
        || (",[]\x7b\x7d#&*!|>\x27\"%@".toList.contains char) || char == Char.ofNat 96)

/-- Takes the next token, with the tokens its place in the text brings along. -/
def fetch (t : Tokens) : Option Tokens := do
  if t.cursor.lacks 1 then none
  if !t.started then
    return { t with
      started := true, keyAllowed := true, candidates := [none] }.push .streamStart t.cursor.mark
        t.cursor.mark
  let t ← skipToToken t.bound t
  let t ← t.dropStale
  let t := t.closeTo t.cursor.mark.column
  let c := t.cursor
  if c.lacks 4 then none
  match c.peek? with
  | none => t.fetchStreamEnd
  | some char =>
    if c.mark.column = 0 && char == '%' then t.fetchDirective
    else if c.atTriple '-' then t.fetchDocumentMark .documentStart
    else if c.atTriple '.' then t.fetchDocumentMark .documentEnd
    else if char == '[' then t.fetchFlowStart .flowSequenceStart
    else if char == '\x7b' then t.fetchFlowStart .flowMappingStart
    else if char == ']' then t.fetchFlowEnd .flowSequenceEnd
    else if char == '\x7d' then t.fetchFlowEnd .flowMappingEnd
    else if char == ',' then t.fetchFlowEntry
    else if char == '-' && c.atGapOrEnd 1 then t.fetchBlockEntry
    else if char == '?' && (t.flow != 0 || c.atGapOrEnd 1) then t.fetchKey
    else if char == ':' && (t.flow != 0 || c.atGapOrEnd 1) then t.fetchValue
    else if char == '*' then t.fetchAnchor .alias
    else if char == '&' then t.fetchAnchor .anchor
    else if char == '!' then t.fetchTag
    else if char == '|' && t.flow == 0 then t.fetchBlockScalar .literal
    else if char == '>' && t.flow == 0 then t.fetchBlockScalar .folded
    else if char == '\x27' then t.fetchQuoted .singleQuoted
    else if char == '"' then t.fetchQuoted .doubleQuoted
    else if t.plainStarts then t.fetchPlain
    else none

/-- Takes tokens until the first one is settled. -/
def settle : Nat → Tokens → Option Tokens
  | 0, _ => none
  | fuel + 1, t =>
    if t.ready.isEmpty then
      match t.fetch with
      | none => none
      | some t => settle fuel t
    else
      match t.dropStale with
      | none => none
      | some t =>
        if t.candidates.any fun c => c.any fun c => c.number == t.taken then
          match t.fetch with
          | none => none
          | some t => settle fuel t
        else some t

/-- The next token, which stays where it is. -/
def head? (t : Tokens) : Option (Token × Tokens) :=
  match settle (t.bound + 1) t with
  | none => none
  | some t => t.ready.head?.map (·, t)

def next (t : Tokens) : Tokens :=
  { t with ready := t.ready.tail, taken := t.taken + 1 }

end Tokens

end Crosscheck.Yaml
