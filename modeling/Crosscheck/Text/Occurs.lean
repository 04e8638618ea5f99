/-! # Parts of texts -/

namespace Crosscheck.Text

/-- Whether a text contains another. -/
def occurs (part : List Char) : List Char → Bool
  | [] => part.isEmpty
  | c :: rest => part.isPrefixOf (c :: rest) || occurs part rest

end Crosscheck.Text
