/-! # Lines of a text

A text is a list of characters. `pieces` cuts it at every newline and always gives at least one
piece; `lines` gives the lines that a reader of the text would count: a final newline ends the last
line instead of opening an empty one, and a carriage return before a newline belongs to the ending.
-/

namespace Crosscheck.Text

/-- The parts of a text between its newlines, at least one. -/
def pieces (text : List Char) : List (List Char) :=
  text.splitOn '\n'

/-- Parts put together again with newlines between them. -/
def joinPieces (parts : List (List Char)) : List Char :=
  ['\n'].intercalate parts

/-- A carriage return at the end of a line that a newline closed is part of the line ending. -/
def dropReturn (line : List Char) : List Char :=
  if line.getLast? = some '\r' then line.dropLast else line

/-- The lines among pieces: every piece but the last was closed by a newline, and an empty last
piece is no line. -/
def linesOfPieces : List (List Char) → List (List Char)
  | [] => []
  | [last] => if last.isEmpty then [] else [last]
  | line :: rest => dropReturn line :: linesOfPieces rest

/-- The lines of a text. -/
def lines (text : List Char) : List (List Char) :=
  linesOfPieces (pieces text)

end Crosscheck.Text
