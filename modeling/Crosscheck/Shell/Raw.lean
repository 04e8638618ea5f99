import Crosscheck.Text.Utf8

/-! # Texts of bytes

The shell and its programs know nothing of encodings. Here a text is one in which each character
stands for a byte; names and arguments from outside are taken apart into their bytes first.
-/

namespace Crosscheck.Shell.Raw

def ofBytes (bytes : Bytes) : List Char :=
  bytes.map fun b => Char.ofNat b.toNat

def toBytes (text : List Char) : Bytes :=
  text.map fun c => UInt8.ofNat c.toNat

/-- The bytes of a text from outside. -/
def ofText (text : String) : String :=
  String.ofList (ofBytes (Utf8.encode text))

/-- The text that bytes spell, for use outside. -/
def toText (raw : String) : String :=
  String.ofList (Utf8.decodeLossy (toBytes raw.toList))

end Crosscheck.Shell.Raw
