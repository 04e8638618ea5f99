/-! # A place in a YAML text

A cursor holds the characters still to be read and the mark of the next one. Reading functions give
`none` when the text is malformed. A text is read in blocks, and a block with a character that is not
allowed is malformed as a whole, so the functions look no further ahead than the next piece of text
needs.
-/

namespace Crosscheck.Yaml

/-- A position, counted from zero. The index counts bytes and columns count characters. -/
structure Mark where
  index : Nat := 0
  line : Nat := 0
  column : Nat := 0
  deriving DecidableEq, Repr, Inhabited

/-- The mark after a character of the current line. -/
def Mark.past (mark : Mark) (c : Char) : Mark :=
  { mark with index := mark.index + c.utf8Size, column := mark.column + 1 }

structure Cursor where
  rest : List Char
  mark : Mark := {}
  /-- More text follows `rest`, and it cannot be read. -/
  cut : Bool := false

def isBreak (c : Char) : Bool :=
  c == '\n' || c == '\r' || c == '\u0085' || c == '\u2028' || c == '\u2029'

/-- A space or a tab. -/
def isGap (c : Char) : Bool :=
  c == ' ' || c == '\t'

/-- Letters, digits, `_` and `-`, as in the names of anchors and directives. -/
def isNameChar (c : Char) : Bool :=
  c.isAlphanum || c == '_' || c == '-'

/-- The characters a text may hold at all. -/
def isAllowed (c : Char) : Bool :=
  let n := c.toNat
  n == 0x09 || n == 0x0A || n == 0x0D || (0x20 ≤ n && n ≤ 0x7E) || n == 0x85
    || (0xA0 ≤ n && n ≤ 0xD7FF) || (0xE000 ≤ n && n ≤ 0xFFFD) || 0x10000 ≤ n

/-- The length in bytes of the blocks in which a text is read. -/
def blockLength : Nat := 16384

/-- The blocks of a text before the first one that holds a character which is not allowed, and
whether there is such a block. No character is divided between two blocks. The characters in `front`
and then those in `block`, both last first, come before the text, and `room` bytes are left in the
current block. -/
def legibleFrom (front block : List Char) (room : Nat) : List Char → List Char × Bool
  | [] => ((block ++ front).reverse, false)
  | char :: rest =>
    if char.utf8Size ≤ room then
      if isAllowed char then legibleFrom front (char :: block) (room - char.utf8Size) rest
      else (front.reverse, true)
    else if isAllowed char then
      legibleFrom (block ++ front) [char] (blockLength - char.utf8Size) rest
    else ((block ++ front).reverse, true)

namespace Cursor

/-- The start of a text. -/
def ofText (text : List Char) : Cursor :=
  let (rest, cut) := legibleFrom [] [] blockLength text
  { rest, cut }

/-- Whether fewer than `count` characters can be read and the text is not at its end. -/
def lacks (c : Cursor) (count : Nat) : Bool :=
  c.cut && (c.rest.drop (count - 1)).isEmpty

def peek? (c : Cursor) (ahead : Nat := 0) : Option Char :=
  c.rest[ahead]?

/-- Whether the character `ahead` of the cursor is the given one. -/
def sees (c : Cursor) (char : Char) (ahead : Nat := 0) : Bool :=
  c.peek? ahead == some char

def atBreakOrEnd (c : Cursor) (ahead : Nat := 0) : Bool :=
  (c.peek? ahead).all isBreak

def atGapOrEnd (c : Cursor) (ahead : Nat := 0) : Bool :=
  (c.peek? ahead).all fun char => isGap char || isBreak char

def atGap (c : Cursor) (ahead : Nat := 0) : Bool :=
  (c.peek? ahead).any isGap

def atBreak (c : Cursor) (ahead : Nat := 0) : Bool :=
  (c.peek? ahead).any isBreak

/-- The place after the first characters of a line. -/
def advance (c : Cursor) : Nat → List Char → Mark → Cursor
  | count + 1, char :: rest, mark => advance c count rest (mark.past char)
  | _, rest, mark => { c with rest, mark }

/-- Steps over `count` characters of the current line. -/
def skip (c : Cursor) (count : Nat := 1) : Cursor :=
  c.advance count c.rest c.mark

/-- The characters at the front of a line that satisfy a test, after those in `front`, which are
last first. -/
def takeFrom (c : Cursor) (test : Char → Bool) :
    List Char → List Char → Mark → List Char × Cursor
  | front, [], mark => (front.reverse, { c with rest := [], mark })
  | front, char :: rest, mark =>
    if test char then takeFrom c test (char :: front) rest (mark.past char)
    else (front.reverse, { c with rest := char :: rest, mark })

/-- The characters on the current line that satisfy a test. -/
def takeWhile (c : Cursor) (test : Char → Bool) : List Char × Cursor :=
  c.takeFrom test [] c.rest c.mark

def skipWhile (c : Cursor) (test : Char → Bool) : Cursor :=
  (c.takeWhile test).2

/-- Reads a line break, if there is one. A carriage return and a newline are one break, and every
break but the two Unicode separators reads as a newline. -/
def readBreak (c : Cursor) : List Char × Cursor :=
  let onward (bytes : Nat) (rest : List Char) : Cursor :=
    { c with rest, mark := ⟨c.mark.index + bytes, c.mark.line + 1, 0⟩ }
  match c.rest with
  | '\r' :: '\n' :: rest => (['\n'], onward 2 rest)
  | char :: rest =>
    if char == '\u2028' || char == '\u2029' then ([char], onward char.utf8Size rest)
    else if isBreak char then (['\n'], onward char.utf8Size rest)
    else ([], c)
  | [] => ([], c)

/-- Whether three equal characters stand alone at the start of a line. -/
def atTriple (c : Cursor) (char : Char) : Bool :=
  c.mark.column == 0 && c.sees char && c.sees char 1 && c.sees char 2 && c.atGapOrEnd 3

/-- Whether a line starts or ends a document. -/
def atDocumentMark (c : Cursor) : Bool :=
  c.atTriple '-' || c.atTriple '.'

/-- Steps over gaps and a comment to the end of the line, and over its break. -/
def finishLine? (c : Cursor) : Option Cursor :=
  let c := c.skipWhile isGap
  let c := if c.sees '#' then c.skipWhile (!isBreak ·) else c
  if c.atBreakOrEnd && !c.lacks 2 then some c.readBreak.2 else none

end Cursor

end Crosscheck.Yaml
