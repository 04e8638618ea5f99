import Crosscheck.Text.CharClass
import Crosscheck.Text.Lines

/-! # Filling lines

Text is broken at spaces into lines of bounded width. A word with the spaces after it is one unit;
spaces at the end of a line are dropped. A word that is wider than a whole line is cut first. What a
terminal takes for a control sequence fills no columns.
-/

namespace Crosscheck.Text

/-- A word and the number of spaces after it. -/
structure Word where
  text : List Char
  spaces : Nat
  deriving DecidableEq, Repr

/-- What follows an escape character that belongs to it: a sequence for the terminal up to its final
character, or the one character after it. -/
def afterEscape : List Char → List Char
  | '[' :: rest => (rest.dropWhile fun c => !('@' ≤ c && c ≤ '~')).tail
  | ']' :: rest => afterTitle rest
  | _ :: rest => rest
  | [] => []
where
  /-- The text of a title ends at a bell, or at a backslash after an escape. -/
  afterTitle : List Char → List Char
    | [] => []
    | '\x1b' :: '\\' :: rest => rest
    | c :: rest => if c == '\x07' then rest else afterTitle rest

/-- The characters that a terminal shows. -/
def shown : Nat → List Char → List Char
  | 0, _ => []
  | _, [] => []
  | fuel + 1, c :: rest =>
    if c == '\x1b' then shown fuel (afterEscape rest) else c :: shown fuel rest

/-- The columns that a text fills on a terminal. -/
def width (text : List Char) : Nat :=
  (shown text.length text).foldl (fun n c => n + columns c) 0

/-- The words of a line. Spaces at the very start follow an empty word. -/
def words : Nat → List Char → List Word
  | 0, _ => []
  | _, [] => []
  | fuel + 1, line =>
    let word := line.takeWhile (· != ' ')
    let after := line.dropWhile (· != ' ')
    let spaces := (after.takeWhile (· == ' ')).length
    ⟨word, spaces⟩ :: words fuel (after.drop spaces)

/-- Divides a text into parts of at most `limit` columns. The part at hand is kept last character
first and fills `used` columns. -/
def cutText (limit : Nat) : Nat → List Char → Nat → List Char → List (List Char)
  | 0, part, _, _ => [part.reverse]
  | _, part, _, [] => [part.reverse]
  | fuel + 1, part, used, c :: rest =>
    if c == '\x1b' then
      let after := afterEscape rest
      let sequence := rest.take (rest.length - after.length)
      cutText limit fuel (sequence.reverse ++ c :: part) used after
    else if 0 < used ∧ limit < used + columns c then
      part.reverse :: cutText limit fuel [c] (columns c) rest
    else cutText limit fuel (c :: part) (used + columns c) rest

/-- A word cut into parts of at most `limit` columns; the spaces follow the last one. -/
def cutWord (limit : Nat) (word : Word) : List Word :=
  if width word.text ≤ limit then [word]
  else
    let parts := cutText limit word.text.length [] 0 word.text
    parts.dropLast.map (⟨·, 0⟩) ++ (parts.getLast?.toList.map (⟨·, word.spaces⟩))

/-- The text of words on one line; the spaces after the last one are dropped. -/
def lineOfWords : List Word → List Char
  | [] => []
  | [word] => word.text
  | word :: rest => word.text ++ List.replicate word.spaces ' ' ++ lineOfWords rest

/-- Puts words on lines one after another. `used` counts the columns of the words already on the
line, which are kept last first. -/
def fill (limit : Nat) : Nat → List Word → List Word → List (List Char)
  | _, line, [] => [lineOfWords line.reverse]
  | used, line, word :: rest =>
    if used + width word.text > limit ∧ line ≠ [] then
      lineOfWords line.reverse :: fill limit (width word.text + word.spaces) [word] rest
    else fill limit (used + width word.text + word.spaces) (word :: line) rest

/-- The lines of one paragraph, `limit` columns wide. -/
def fillParagraph (limit : Nat) (text : List Char) : List (List Char) :=
  let cut := (words (text.length + 1) text).flatMap (cutWord limit)
  fill limit 0 [⟨[], 0⟩] cut

/-- A text filled into lines of 78 columns. The first line starts with `first` and all others with
`next`, both of the same width; newlines in the text are kept. -/
def wrap (first next : String) (text : String) : List String :=
  let limit := 78 - width next.toList
  let body := (pieces text.toList).flatMap (fillParagraph limit)
  match body with
  | [] => []
  | line :: rest =>
    (first ++ String.ofList line) :: rest.map (fun line => next ++ String.ofList line)

end Crosscheck.Text
