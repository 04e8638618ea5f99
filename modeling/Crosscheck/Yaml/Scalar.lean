import Crosscheck.Number.Reading
import Crosscheck.Number.Shortest
import Crosscheck.Text.Quoted
import Crosscheck.Yaml.Document

/-! # Values of scalars

Which value a scalar stands for, and how a value is named in a message.
-/

namespace Crosscheck.Yaml

/-- What was found in the place of something else. -/
inductive Found where
  | null
  | boolean (value : Bool)
  | integer (value : Int)
  /-- A whole number outside 64 bits. -/
  | wideInteger (value : Int)
  | floating (value : Float)
  | string (text : String)
  | sequence
  | mapping

namespace Found

def describe : Found → String
  | null => "unit value"
  | boolean value => "boolean \x60" ++ (if value then "true" else "false") ++ "\x60"
  | integer value => "integer \x60" ++ toString value ++ "\x60"
  | wideInteger value =>
    "integer \x60" ++ toString value ++ (if value < 0 then "\x60 as i128" else "\x60 as u128")
  | floating value => "floating point \x60" ++ Number.showFloat value ++ "\x60"
  | string text => "string " ++ Text.quoted text
  | sequence => "sequence"
  | mapping => "map"

end Found

/-! ## Readings of plain text -/

def null? (text : String) : Option Unit :=
  if text ∈ ["null", "Null", "NULL", "~"] then some () else none

def bool? (text : String) : Option Bool :=
  if text ∈ ["true", "True", "TRUE"] then some true
  else if text ∈ ["false", "False", "FALSE"] then some false
  else none

/-- A whole number, of 64 bits if it fits and of 128 bits otherwise. -/
def integer? (text : String) : Option Found :=
  let chars := text.toList
  ((Number.unsigned? UInt64.size chars).map fun n => .integer n)
    |>.or ((Number.negative? (Nat.pow 2 63) chars).map .integer)
    |>.or ((Number.unsigned? (Nat.pow 2 128) chars).map fun n => .wideInteger n)
    |>.or ((Number.negative? (Nat.pow 2 127) chars).map .wideInteger)

/-- The value of plain text. -/
def plainValue (text : String) : Found :=
  if text.isEmpty || (null? text).isSome then .null
  else
    match bool? text, integer? text with
    | some b, _ => .boolean b
    | none, some number => number
    | none, none =>
      match Number.float? text.toList with
      | some x => if Number.isPaddedZero text.toList then .string text else .floating x
      | none => .string text

/-! ## Tags -/

/-- The kind of value that a standard tag asks for. -/
inductive CoreTag where
  | bool | int | float | null
  deriving DecidableEq, Repr

def CoreTag.ofTag? (tag : String) : Option CoreTag :=
  if tag = "tag:yaml.org,2002:bool" then some .bool
  else if tag = "tag:yaml.org,2002:int" then some .int
  else if tag = "tag:yaml.org,2002:float" then some .float
  else if tag = "tag:yaml.org,2002:null" then some .null
  else none

def CoreTag.wanted : CoreTag → String
  | bool => "a boolean"
  | int => "an integer"
  | float => "a float"
  | null => "null"

/-- The value that a standard tag makes of a text, if it can. -/
def CoreTag.read? (tag : CoreTag) (text : String) : Option Found :=
  match tag with
  | bool => (bool? text).map .boolean
  | int => integer? text
  | float => (Number.float? text.toList).map .floating
  | null => (null? text).map fun _ => .null

/-- Why a scalar is not what was wanted: its value is of another kind, or its own tag does not fit
its text. -/
def scalarMismatch (tag : Option String) (style : Style) (text wanted : String) : String :=
  let other (found : Found) := "invalid type: " ++ found.describe ++ ", expected " ++ wanted
  match tag.bind CoreTag.ofTag? with
  | some core =>
    match core.read? text with
    | some found => other found
    | none =>
      "invalid value: string " ++ Text.quoted text ++ ", expected " ++ core.wanted
  | none =>
    let ownTag := tag.all (·.startsWith "!")
    other (if style = .plain && ownTag then plainValue text else .string text)

end Crosscheck.Yaml
