/-! # The start of a long text

A text that is too long is cut off after `max` bytes. Where this would be inside a character, the cut
is moved back, byte by byte, to the place in front of it.
-/

namespace Crosscheck.Text

/-- The last place between two characters among the first `offset` bytes of a text. It is looked for
from the back, and there is none in front of the text. -/
def boundary? (text : String) : Nat → Option Nat
  | 0 => if (String.Pos.Raw.mk 0).isValid text then some 0 else none
  | offset + 1 =>
    if (String.Pos.Raw.mk (offset + 1)).isValid text then some (offset + 1)
    else boundary? text offset

/-- The first `offset` bytes of a text. They make no text if they end inside a character. -/
def front? (text : String) (offset : Nat) : Option String :=
  (text.pos? ⟨offset⟩).map fun place => (text.sliceTo place).copy

/-- The longest part at the front of a text that takes at most `max` bytes. -/
def excerpt? (max : Nat) (text : String) : Option String :=
  if text.utf8ByteSize ≤ max then some text
  else (boundary? text max).bind (front? text)

end Crosscheck.Text
