import Crosscheck.Text.CharClass

/-! # Text between double quotes

`quoted` shows a text so that no character of it can be mistaken: quotes and the backslash are
escaped, and characters that do not show by themselves are written as code points.
-/

namespace Crosscheck.Text

/-- A code point in hexadecimal, between braces. -/
def quotedCode (c : Char) : List Char :=
  "\\u\x7b".toList ++ Nat.toDigits 16 c.toNat ++ ['\x7d']

def quotedChar (c : Char) : List Char :=
  if c = '\x00' then ['\\', '0']
  else if c = '\t' then ['\\', 't']
  else if c = '\r' then ['\\', 'r']
  else if c = '\n' then ['\\', 'n']
  else if c = '\\' then ['\\', '\\']
  else if c = '"' then ['\\', '"']
  else if c.toNat < 0x7F ∧ 0x20 ≤ c.toNat then [c]
  else if isJoining c then quotedCode c
  else if isPrintable c then [c]
  else quotedCode c

def quoted (text : String) : String :=
  String.ofList ('"' :: (text.toList.flatMap quotedChar ++ ['"']))

end Crosscheck.Text
