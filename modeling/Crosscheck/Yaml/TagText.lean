import Crosscheck.Yaml.ScalarText

/-! # Anchors, tags and directives -/

namespace Crosscheck.Yaml

/-- The name of an anchor or an alias, after its indicator. -/
def readAnchor (c : Cursor) : Option (String × Cursor) :=
  let (name, c) := c.takeWhile isNameChar
  let ended := c.atGapOrEnd ||
    c.peek?.any ['?', ':', ',', ']', '\x7d', '%', '@', Char.ofNat 96].contains
  if name.isEmpty || !ended || c.lacks 1 then none else some (String.ofList name, c)

/-! ## Parts of tags

A tag is a text of octets: a character below 256 stands for the octet of its number. It ends before
its first zero, wherever it is used.
-/

/-- A handle: `!`, `!name` or `!name!`. -/
def readHandle (c : Cursor) : Option (List Char × Cursor) :=
  if !c.sees '!' then none
  else
    let (name, c) := c.skip.takeWhile isNameChar
    if c.sees '!' then some ('!' :: name ++ ['!'], c.skip) else some ('!' :: name, c)

/-- Whether a tag may hold the character. Commas and square brackets need `verbatim`. -/
def isTagChar (verbatim : Bool) (c : Char) : Bool :=
  isNameChar c || ";/?:@&=+$.%!~*\x27()".toList.contains c || (verbatim && ",[]".toList.contains c)

/-- The octets, last one first, of `%` escapes that have the form of one UTF-8 character. -/
def readUriEscape (c : Cursor) : Option (List Char × Cursor) :=
  let octet (c : Cursor) : Option Nat :=
    match c.rest with
    | '%' :: a :: b :: _ => hexValue? [a, b]
    | _ => none
  match octet c with
  | none => none
  | some first =>
    let length :=
      if first < 0x80 then 1
      else if first / 32 = 6 then 2
      else if first / 16 = 14 then 3
      else if first / 8 = 30 then 4
      else 0
    let all : Option (List Char) := (List.range (length - 1)).foldlM (fun octets k =>
      match octet (c.skip (3 * (k + 1))) with
      | some n => if n / 64 = 2 then some (Char.ofNat n :: octets) else none
      | none => none) [Char.ofNat first]
    if length = 0 then none else all.map (·, c.skip (3 * length))

/-- The octets of a tag, last one first. -/
def readTagChars (verbatim : Bool) : Nat → List Char → Cursor → Option (List Char × Cursor)
  | 0, text, c => some (text, c)
  | fuel + 1, text, c =>
    match c.peek? with
    | none => some (text, c)
    | some char =>
      if !isTagChar verbatim char then some (text, c)
      else if char == '%' then
        match readUriEscape c with
        | none => none
        | some (octets, c) => readTagChars verbatim fuel (octets ++ text) c
      else readTagChars verbatim fuel (char :: text) c.skip

/-- The rest of a tag whose start has been read. One that has no characters at all is refused. -/
def readTagRest (verbatim : Bool) (head : List Char) (fuel : Nat) (c : Cursor) :
    Option (String × Cursor) :=
  match readTagChars verbatim fuel [] c with
  | none => none
  | some (text, c) =>
    if head.isEmpty && text.isEmpty then none
    else some (String.ofList ((head.tail ++ text.reverse).takeWhile (· != '\x00')), c)

/-- A tag as its handle and suffix. The handle is empty for a tag that stands for itself. -/
def readTag (flow : Bool) (fuel : Nat) (c : Cursor) : Option (String × String × Cursor) := do
  let (handle, suffix, c) ←
    if c.sees '<' 1 then
      match readTagRest true [] fuel (c.skip 2) with
      | some (suffix, c) => if c.sees '>' then some ("", suffix, c.skip) else none
      | none => none
    else
      match readHandle c with
      | none => none
      | some (handle, c) =>
        if handle.length > 1 && handle.getLast? == some '!' then
          (readTagRest false [] fuel c).map fun (suffix, c) => (String.ofList handle, suffix, c)
        else
          (readTagRest false handle fuel c).map fun (suffix, c) =>
            if suffix.isEmpty then ("", "!", c) else ("!", suffix, c)
  if c.lacks 1 then none
  else if c.atGapOrEnd || (flow && c.sees ',') then some (handle, suffix, c)
  else none

/-! ## Directives -/

inductive Directive where
  | version (major minor : Nat)
  | tag (handle start : String)
  deriving DecidableEq, Repr

/-- A number of at most nine digits. -/
def readVersionPart (c : Cursor) : Option (Nat × Cursor) :=
  let (digits, c) := c.takeWhile Char.isDigit
  if digits.isEmpty || digits.length > 9 then none
  else some (digits.foldl (fun n d => n * 10 + (d.toNat - 48)) 0, c)

/-- A directive, after its `%`. -/
def readDirective (fuel : Nat) (c : Cursor) : Option (Directive × Cursor) := do
  let (name, c) := c.takeWhile isNameChar
  if name.isEmpty || !c.atGapOrEnd then none
  let (directive, c) ←
    if name == "YAML".toList then
      match readVersionPart (c.skipWhile isGap) with
      | none => none
      | some (major, c) =>
        if !c.sees '.' then none
        else (readVersionPart c.skip).map fun (minor, c) => (Directive.version major minor, c)
    else if name == "TAG".toList then
      match readHandle (c.skipWhile isGap) with
      | none => none
      | some (handle, c) =>
        if handle.length > 1 && handle.getLast? != some '!' then none
        else if !c.atGap then none
        else
          match readTagRest true [] fuel (c.skipWhile isGap) with
          | none => none
          | some (start, c) =>
            if c.atGapOrEnd then some (Directive.tag (String.ofList handle) start, c) else none
    else none
  let c ← c.finishLine?
  return (directive, c)

end Crosscheck.Yaml
