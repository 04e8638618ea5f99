/-! # Patterns

A star stands for any characters, a question mark for one, and brackets for one of a set. Quoted
characters stand for themselves, and a backslash that came from an expansion quotes the next one.
-/

namespace Crosscheck.Shell

/-- A character and whether it was quoted. -/
abbrev Marked := Char × Bool

inductive Glob where
  | any
  | one
  | among (negate : Bool) (ranges : List (Char × Char))
  | char (c : Char)
  deriving DecidableEq, Repr

namespace Glob

/-- Names of classes of characters. -/
def classRanges? (name : String) : Option (List (Char × Char)) :=
  match name with
  | "digit" => some [('0', '9')]
  | "alpha" => some [('a', 'z'), ('A', 'Z')]
  | "alnum" => some [('a', 'z'), ('A', 'Z'), ('0', '9')]
  | "lower" => some [('a', 'z')]
  | "upper" => some [('A', 'Z')]
  | "space" => some [(' ', ' '), ('\t', '\r')]
  | "blank" => some [(' ', ' '), ('\t', '\t')]
  | "punct" => some [('!', '/'), (':', '@'), ('[', Char.ofNat 96), ('\x7b', '~')]
  | "xdigit" => some [('0', '9'), ('a', 'f'), ('A', 'F')]
  | "cntrl" => some [('\x00', '\x1f'), ('\x7f', '\x7f')]
  | "graph" => some [('!', '~')]
  | "print" => some [(' ', '~')]
  | _ => none

/-- The class that starts after a bracket, with what follows it. -/
def class? (rest : List Marked) : Option (List (Char × Char) × List Marked) :=
  match rest with
  | (':', false) :: rest =>
    let name := rest.takeWhile (fun m => m.1.isAlpha)
    match rest.drop name.length with
    | (':', false) :: (']', false) :: after =>
      (classRanges? (String.ofList (name.map Prod.fst))).map fun ranges => (ranges, after)
    | _ => none
  | _ => none

/-- A member of a set: a character, which a backslash may quote. -/
def member? : List Marked → Option (Char × List Marked)
  | ('\\', false) :: (c, _) :: rest => some (c, rest)
  | (c, _) :: rest => some (c, rest)
  | [] => none

/-- The ranges of a set up to its closing bracket, which does not close as its first member; and
what follows it. -/
def ranges : Nat → Bool → List Marked → Option (List (Char × Char) × List Marked)
  | 0, _, _ => none
  | fuel + 1, first, marked =>
    match marked with
    | [] => none
    | (c, quoted) :: rest =>
      if c == ']' && !quoted && !first then some ([], rest)
      else
        let found := if c == '[' && !quoted then class? rest else none
        match found with
        | some (inside, rest) => do
          let (others, rest) ← ranges fuel false rest
          return (inside ++ others, rest)
        | none => do
          let (low, rest) ← member? marked
          match rest with
          | ('-', false) :: (next, q) :: _ =>
            if next == ']' && !q then
              let (others, rest) ← ranges fuel false rest
              return ((low, low) :: others, rest)
            else
              let (high, rest) ← member? rest.tail
              let (others, rest) ← ranges fuel false rest
              return ((low, high) :: others, rest)
          | _ =>
            let (others, rest) ← ranges fuel false rest
            return ((low, low) :: others, rest)

/-- Adds to a pattern, whose latest part comes first. Stars in a row are worth one. -/
def push (done : List Glob) (glob : Glob) : List Glob :=
  if glob = .any && done.head? = some .any then done else glob :: done

/-- The pattern that marked characters spell, after a part of which the latest comes first. -/
def ofMarked : Nat → List Glob → List Marked → List Glob
  | 0, done, _ => done.reverse
  | _, done, [] => done.reverse
  | fuel + 1, done, (c, quoted) :: rest =>
    if quoted then ofMarked fuel (.char c :: done) rest
    else if c == '*' then ofMarked fuel (push done .any) rest
    else if c == '?' then ofMarked fuel (.one :: done) rest
    else if c == '\\' then
      match rest with
      | (d, _) :: rest => ofMarked fuel (.char d :: done) rest
      | [] => (.char c :: done).reverse
    else if c == '[' then
      let (negate, inside) :=
        match rest with
        | ('!', false) :: inside => (true, inside)
        | inside => (false, inside)
      match ranges (inside.length + 1) true inside with
      | some (ranges, after) => ofMarked fuel (.among negate ranges :: done) after
      | none => ofMarked fuel (.char c :: done) rest
    else ofMarked fuel (.char c :: done) rest

/-- The order of bytes, of which the upper half counts as negative. -/
def rank (c : Char) : Int :=
  if c.toNat < 128 then c.toNat else (c.toNat : Int) - 256

def accepts : Glob → Char → Bool
  | any, _ => true
  | one, _ => true
  | among negate ranges, c =>
    ranges.any (fun (low, high) => decide (rank low ≤ rank c) && decide (rank c ≤ rank high))
      != negate
  | char d, c => c == d

/-! ## Matching

A pattern is matched against all starts of a text at once. What is left of it after one of them is
known by its place in the whole pattern.
-/

/-- A rest of a pattern. -/
structure Rest where
  place : Nat
  globs : List Glob

/-- A rest, and what is left of it if a star at its start stands for nothing. -/
def Rest.withoutStar (rest : Rest) : List Rest :=
  match rest.globs with
  | .any :: globs => [rest, ⟨rest.place + 1, globs⟩]
  | _ => [rest]

/-- What is left of a rest after one more character. -/
def Rest.after (rest : Rest) (c : Char) : List Rest :=
  match rest.globs with
  | [] => []
  | .any :: _ => rest.withoutStar
  | glob :: globs => if glob.accepts c then Rest.withoutStar ⟨rest.place + 1, globs⟩ else []

/-- What can be left of a pattern after one more character. -/
def advance (rests : List Rest) (c : Char) : List Rest :=
  (rests.flatMap (·.after c)).foldl
    (fun seen rest => if seen.any (·.place == rest.place) then seen else seen ++ [rest]) []

/-- Whether nothing need be left of a pattern. -/
def isCovered (rests : List Rest) : Bool :=
  rests.any (·.globs.isEmpty)

/-- Whether a pattern covers a text from end to end. -/
def covers (pattern : List Glob) (text : List Char) : Bool :=
  isCovered (text.foldl advance (Rest.withoutStar ⟨0, pattern⟩))

/-- The sizes of the shortest and the longest start of a text that a pattern covers. -/
def sizes (pattern : List Glob) (text : List Char) : Option (Nat × Nat) :=
  let note (rests : List Rest) (size : Nat) (found : Option (Nat × Nat)) : Option (Nat × Nat) :=
    if isCovered rests then some ((found.map Prod.fst).getD size, size) else found
  let start := Rest.withoutStar ⟨0, pattern⟩
  let (_, _, found) := text.foldl
    (fun (rests, size, found) c =>
      let rests := advance rests c
      (rests, size + 1, note rests (size + 1) found))
    (start, 0, note start 0 none)
  found

end Glob

/-- The pattern of an expanded word. -/
def patternOf (marked : List Marked) : List Glob :=
  Glob.ofMarked (marked.length + 1) [] marked

/-- Whether a word has anything that makes it a pattern. -/
def isPattern (marked : List Marked) : Bool :=
  marked.any fun m => !m.2 && (m.1 == '*' || m.1 == '?' || m.1 == '[')

/-! ## Trimming

A text may consist of arguments with a null between them. A start is looked for in the first argument
only, and so is the longest end; the shortest end is looked for in all, from the last to the first.
-/

/-- How much of a start is covered: as little or as much as can be. -/
def startSize (pattern : List Glob) (longest : Bool) (text : List Char) : Option Nat :=
  (Glob.sizes pattern text).map fun (least, most) => if longest then most else least

/-- How much of an end is covered. -/
def endSize (pattern : List Glob) (longest : Bool) (text : List Char) : Option Nat :=
  startSize pattern.reverse longest text.reverse

/-- The text without the shortest or longest start that a pattern covers. If the longest start is all
of the first argument, nothing is left of the others either. -/
def trimStart (pattern : List Glob) (longest : Bool) (text : List Char) : List Char :=
  let first := text.takeWhile (· != '\x00')
  match startSize pattern longest first with
  | some n => if longest && n = first.length then [] else text.drop n
  | none => text

/-- The size of the text before the shortest end that a pattern covers. Arguments come last one first,
each with the size of all up to its own end. -/
def beforeEnd (pattern : List Glob) : List (List Char × Nat) → Option Nat
  | [] => none
  | (arg, size) :: rest =>
    match endSize pattern false arg with
    | some n => some (size - n)
    | none => beforeEnd pattern rest

/-- Arguments with the size of all up to their ends, the last one first. -/
def argumentsOf (text : List Char) : List (List Char × Nat) :=
  let (last, size, done) := text.foldl
    (fun (current, size, done) c =>
      if c == '\x00' then ([], size + 1, (current.reverse, size) :: done)
      else (c :: current, size + 1, done))
    (([], 0, []) : List Char × Nat × List (List Char × Nat))
  (last.reverse, size) :: done

/-- The text without the shortest or longest end that a pattern covers. -/
def trimEnd (pattern : List Glob) (longest : Bool) (text : List Char) : List Char :=
  let size :=
    if longest then
      let first := text.takeWhile (· != '\x00')
      (endSize pattern true first).map (first.length - ·)
    else beforeEnd pattern (argumentsOf text)
  size.elim text text.take

end Crosscheck.Shell
