import Crosscheck.Yaml.Cursor

/-! # The text of scalars

Plain, quoted and block scalars. Lines of the first two are folded: a single break reads as a space,
and of several breaks the first is dropped.
-/

namespace Crosscheck.Yaml

inductive Style where
  | plain
  | singleQuoted
  | doubleQuoted
  | literal
  | folded
  deriving DecidableEq, Repr

/-! ## Gaps between words -/

/-- White space inside a scalar: blanks on a line, or breaks with the blanks around them. The blanks
and the breaks after the first are kept last first. -/
structure Gap where
  blanks : List Char := []
  firstBreak : List Char := []
  moreBreaks : List Char := []
  broken : Bool := false

/-- What a gap reads as, last character first. -/
def Gap.text (gap : Gap) : List Char :=
  if gap.broken then
    if gap.firstBreak == ['\n'] then
      if gap.moreBreaks.isEmpty then [' '] else gap.moreBreaks
    else gap.moreBreaks ++ gap.firstBreak
  else gap.blanks

/-- Reads on through white space. After a break, a tab left of `indent` is refused. -/
def readGap (indent : Int) : Nat → Gap → Cursor → Option (Gap × Cursor)
  | 0, gap, c => some (gap, c)
  | fuel + 1, gap, c =>
    match c.peek? with
    | none => if c.cut then none else some (gap, c)
    | some char =>
      if isGap char then
        if gap.broken && char == '\t' && decide ((c.mark.column : Int) < indent) then none
        else if gap.broken then readGap indent fuel gap c.skip
        else readGap indent fuel { gap with blanks := char :: gap.blanks } c.skip
      else if isBreak char then
        let (text, next) := c.readBreak
        if c.lacks 2 then none
        else if gap.broken then
          readGap indent fuel { gap with moreBreaks := text ++ gap.moreBreaks } next
        else readGap indent fuel { firstBreak := text, broken := true } next
      else some (gap, c)

/-! ## Plain scalars -/

/-- The characters of a plain scalar up to white space or an indicator that ends it, last one first.
In a flow collection a colon right before a bracket or a comma is refused. -/
def plainWord (flow : Bool) : List Char → List Char → Option (List Char)
  | word, [] => some word
  | word, char :: rest =>
    if isGap char || isBreak char then some word
    else if flow && char == ':' && rest.head?.any [',', '?', '[', ']', '\x7b', '\x7d'].contains then
      none
    else if char == ':' && rest.head?.all (fun next => isGap next || isBreak next) then some word
    else if flow && [',', '[', ']', '\x7b', '\x7d'].contains char then some word
    else plainWord flow (char :: word) rest

/-- The rest of a plain scalar: its text, last character first, whether a line break follows it, and
the place after. -/
def readPlain (flow : Bool) (indent : Int) :
    Nat → List Char → Gap → Cursor → Option (List Char × Bool × Cursor)
  | 0, text, gap, c => some (text, gap.broken, c)
  | fuel + 1, text, gap, c =>
    if c.lacks 4 then none
    else if c.atDocumentMark || c.sees '#' then some (text, gap.broken, c)
    else
      match plainWord flow [] c.rest with
      | none => none
      | some word =>
        let (text, gap) := if word.isEmpty then (text, gap) else (word ++ (gap.text ++ text), {})
        let c := c.skip word.length
        if c.lacks 2 then none
        else if !(c.atGap || c.atBreak) then some (text, gap.broken, c)
        else
          match readGap indent (fuel + 1) gap c with
          | none => none
          | some (gap, c) =>
            if !flow && decide ((c.mark.column : Int) < indent) then some (text, gap.broken, c)
            else readPlain flow indent fuel text gap c

/-! ## Quoted scalars -/

def hexDigit? (c : Char) : Option Nat :=
  if '0' ≤ c ∧ c ≤ '9' then some (c.toNat - 48)
  else if 'a' ≤ c ∧ c ≤ 'f' then some (c.toNat - 87)
  else if 'A' ≤ c ∧ c ≤ 'F' then some (c.toNat - 55)
  else none

/-- The value of hexadecimal digits. -/
def hexValue? (digits : List Char) : Option Nat :=
  digits.foldlM (fun value c => (hexDigit? c).map (value * 16 + ·)) 0

/-- The code point given by `count` hexadecimal digits. -/
def codePoint? (count : Nat) (rest : List Char) : Option Char :=
  let digits := rest.take count
  if digits.length < count then none
  else
    match hexValue? digits with
    | none => none
    | some n =>
      if (0xD800 ≤ n ∧ n ≤ 0xDFFF) ∨ 0x10FFFF < n then none else some (Char.ofNat n)

/-- The character that an escape stands for, given what follows the backslash, and the number of
characters the escape takes after it. -/
def escape? : List Char → Option (Char × Nat)
  | [] => none
  | letter :: rest =>
    match letter with
    | '0' => some ('\x00', 1)
    | 'a' => some ('\x07', 1)
    | 'b' => some ('\x08', 1)
    | 't' | '\t' => some ('\t', 1)
    | 'n' => some ('\n', 1)
    | 'v' => some ('\x0b', 1)
    | 'f' => some ('\x0c', 1)
    | 'r' => some ('\r', 1)
    | 'e' => some ('\x1b', 1)
    | ' ' => some (' ', 1)
    | '"' => some ('"', 1)
    | '/' => some ('/', 1)
    | '\\' => some ('\\', 1)
    | 'N' => some ('\u0085', 1)
    | '_' => some ('\u00a0', 1)
    | 'L' => some ('\u2028', 1)
    | 'P' => some ('\u2029', 1)
    | 'x' => (codePoint? 2 rest).map (·, 3)
    | 'u' => (codePoint? 4 rest).map (·, 5)
    | 'U' => (codePoint? 8 rest).map (·, 9)
    | _ => none

/-- A stretch of a quoted scalar up to white space or the closing quote, last character first. The
flag says that it ended in an escaped line break. -/
def quotedWord (single : Bool) : Nat → List Char → Cursor → Option (List Char × Bool × Cursor)
  | 0, word, c => some (word, false, c)
  | fuel + 1, word, c =>
    match c.rest with
    | [] => if c.cut then none else some (word, false, c)
    | char :: rest =>
      if c.lacks 2 then none
      else if isGap char || isBreak char then some (word, false, c)
      else if single then
        if char == '\x27' then
          if rest.head? == some '\x27' then quotedWord single fuel ('\x27' :: word) (c.skip 2)
          else some (word, false, c)
        else quotedWord single fuel (char :: word) c.skip
      else if char == '"' then some (word, false, c)
      else if char == '\\' then
        if c.atBreak 1 then if c.lacks 3 then none else some (word, true, c.skip.readBreak.2)
        else
          match escape? rest with
          | none => none
          | some (value, count) => quotedWord single fuel (value :: word) (c.skip (count + 1))
      else quotedWord single fuel (char :: word) c.skip

/-- The rest of a quoted scalar after the opening quote. Its text is last character first. -/
def readQuoted (single : Bool) : Nat → List Char → Cursor → Option (List Char × Cursor)
  | 0, _, _ => none
  | fuel + 1, text, c =>
    if c.lacks 4 || c.atDocumentMark || c.rest.isEmpty then none
    else
      match quotedWord single (fuel + 1) [] c with
      | none => none
      | some (word, broken, c) =>
        let text := word ++ text
        if c.sees (if single then '\x27' else '"') then some (text, c.skip)
        else
          match readGap (-1) (fuel + 1) { broken := broken } c with
          | none => none
          | some (gap, c) => readQuoted single fuel (gap.text ++ text) c

/-! ## Block scalars -/

/-- What becomes of the breaks at the end of a block scalar. -/
inductive Chomping where
  | strip
  | clip
  | keep
  deriving DecidableEq

/-- Empty lines and indentation before a line of a block scalar. With an indentation of zero, which
means that it is not known yet, all spaces are taken. Gives the widest indentation and the breaks,
last one first. -/
def blockBreaks (indent : Nat) : Nat → Nat → List Char → Cursor → Option (Nat × List Char × Cursor)
  | 0, _, _, _ => none
  | fuel + 1, widest, breaks, c =>
    let room := if indent = 0 then c.rest else c.rest.take (indent - c.mark.column)
    let c := c.skip (room.takeWhile (· == ' ')).length
    let widest := max widest c.mark.column
    if (indent = 0 || c.mark.column < indent) && c.sees '\t' then none
    else if c.lacks (if c.atBreak then 2 else 1) then none
    else if c.atBreak then
      let (text, c) := c.readBreak
      blockBreaks indent fuel widest (text ++ breaks) c
    else some (widest, breaks, c)

/-- The state between two lines of a block scalar. All text is last character first. -/
structure BlockLines where
  text : List Char := []
  lastBreak : List Char := []
  breaks : List Char := []
  /-- The line before started with white space, so its break is not folded. -/
  spaced : Bool := false

/-- The lines of a block scalar, all indented by `indent`. -/
def blockLines (literal : Bool) (indent : Nat) :
    Nat → BlockLines → Cursor → Option (BlockLines × Cursor)
  | 0, lines, c => some (lines, c)
  | fuel + 1, lines, c =>
    if c.mark.column ≠ indent || c.rest.isEmpty then some (lines, c)
    else
      let spaced := c.atGap
      let joint :=
        if !literal && lines.lastBreak == ['\n'] && !lines.spaced && !spaced then
          if lines.breaks.isEmpty then [' '] else []
        else lines.lastBreak
      let (line, c) := c.takeWhile (!isBreak ·)
      if c.lacks 2 then none
      else
        let (lastBreak, c) := c.readBreak
        match blockBreaks indent (fuel + 1) 0 [] c with
        | none => none
        | some (_, breaks, c) =>
          let text := line.reverse ++ (lines.breaks ++ (joint ++ lines.text))
          blockLines literal indent fuel { text, lastBreak, breaks, spaced } c

/-- The indicators after `|` or `>`: chomping and an indentation, in either order. -/
def blockHeader (c : Cursor) : Option (Chomping × Nat × Cursor) :=
  let chomping (c : Cursor) : Option Chomping :=
    if c.sees '+' then some .keep else if c.sees '-' then some .strip else none
  let digit (c : Cursor) : Option (Option Nat) :=
    match c.peek? with
    | some char =>
      if char == '0' then none
      else if char.isDigit then some (some (char.toNat - 48))
      else some none
    | none => some none
  match chomping c with
  | some kind =>
    match digit c.skip with
    | none => none
    | some (some n) => some (kind, n, c.skip 2)
    | some none => some (kind, 0, c.skip)
  | none =>
    match digit c with
    | none => none
    | some (some n) =>
      match chomping c.skip with
      | some kind => some (kind, n, c.skip 2)
      | none => some (.clip, n, c.skip)
    | some none => some (.clip, 0, c)

/-- A block scalar after its `|` or `>`, inside a collection indented by `outer`. Its text is last
character first. -/
def readBlock (literal : Bool) (outer : Int) (fuel : Nat) (c : Cursor) :
    Option (List Char × Cursor) := do
  let (chomping, increment, c) ← blockHeader c
  let c ← c.finishLine?
  let given : Nat :=
    if increment = 0 then 0 else if 0 ≤ outer then outer.toNat + increment else increment
  let (widest, breaks, c) ← blockBreaks given fuel 0 [] c
  let indent := if given = 0 then max (max widest (outer + 1).toNat) 1 else given
  let (lines, c) ← blockLines literal indent fuel { breaks := breaks } c
  let tail := match chomping with
    | .strip => []
    | .clip => lines.lastBreak
    | .keep => lines.breaks ++ lines.lastBreak
  return (tail ++ lines.text, c)

end Crosscheck.Yaml
