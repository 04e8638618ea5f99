import Crosscheck.Shell.Condition
import Crosscheck.Shell.Program

/-! # Deciding conditions

The program for conditions has rules of its own: up to four words are read by their number, more of
them from the left, and what is wrong is told in other words than the shell's.
-/

namespace Crosscheck.Shell.Test

open Act

/-- What is wrong with a condition. -/
inductive Fault where
  | ends
  | noBracket
  | noInteger (text : String)
  | noUnary (word : String)
  | noBinary (word : String)
  | noLength (operator : String)
  | unclosed (found : Option String)
  | extra (word : String)

/-- The wording; a condition that ends too soon is shown by its last word. -/
def Fault.message (start : Start) (words : List String) : Fault → String
  | .ends => "missing argument after " ++ start.marked (words.getLastD "")
  | .noBracket => "missing " ++ start.marked "]"
  | .noInteger text => "invalid integer " ++ start.marked text
  | .noUnary word => start.marked word ++ ": unary operator expected"
  | .noBinary word => start.marked word ++ ": binary operator expected"
  | .noLength operator => operator ++ " does not accept -l"
  | .unclosed none => start.marked ")" ++ " expected"
  | .unclosed (some word) => start.marked ")" ++ " expected, found " ++ start.marked word
  | .extra word => "extra argument " ++ start.marked word

/-- A result, and the words that are left. -/
abbrev Result := Except Fault (Bool × List String)

/-! ## Operators -/

def comparisons : List String := ["-eq", "-ne", "-lt", "-le", "-gt", "-ge"]

def isBinary (word : String) : Bool :=
  ["=", "==", "!=", "-nt", "-ot", "-ef"].contains word || comparisons.contains word

/-- Whether a word looks like a dash and a letter. -/
def isUnary (word : String) : Bool :=
  word.length = 2 && word.startsWith "-"

/-- A number without bounds, with blanks around it. -/
def integer (text : String) : Except Fault Int :=
  let blank (c : Char) : Bool := c == ' ' || c == '\t'
  let body := text.toList.dropWhile blank
  let (negative, body) :=
    match body with
    | '-' :: rest => (true, rest)
    | '+' :: rest => (false, rest)
    | rest => (false, rest)
  let digits := body.takeWhile Char.isDigit
  match Number.natural? 10 digits with
  | some n =>
    if (body.drop digits.length).all blank then .ok (if negative then -(n : Int) else n)
    else .error (.noInteger text)
  | none => .error (.noInteger text)

/-- A comparison. A missing file is older than any other. -/
def binary (look : Condition.Look) (left operator right : String) (leftLong rightLong : Bool) :
    Except Fault Bool := do
  let size (text : String) : Int := (text.length : Nat)
  if comparisons.contains operator then
    let l ← if leftLong then pure (size left) else integer left
    let r ← if rightLong then pure (size right) else integer right
    return match operator with
      | "-eq" => l == r
      | "-ne" => l != r
      | "-lt" => decide (l < r)
      | "-le" => decide (l ≤ r)
      | "-gt" => decide (l > r)
      | _ => decide (l ≥ r)
  else if operator.startsWith "-" && (leftLong || rightLong) then throw (.noLength operator)
  else
    let one := look true (Raw.toText left)
    let other := look true (Raw.toText right)
    let newer (one other : Option Kernel.Status) : Bool :=
      match one, other with
      | some one, some other => other.changed + Kernel.tick ≤ one.changed
      | some _, none => true
      | none, _ => false
    return match operator with
      | "=" | "==" => left == right
      | "!=" => left != right
      | "-nt" => newer one other
      | "-ot" => newer other one
      | _ => one.any fun a => other.any fun b => a.place == b.place

/-- A comparison at the front of the words. -/
def readBinary (look : Condition.Look) (leftLong : Bool) (words : List String) : Result :=
  match if leftLong then words.tail else words with
  | left :: operator :: "-l" :: right :: rest => do
    return (← binary look left operator right leftLong true, rest)
  | left :: operator :: right :: rest => do
    return (← binary look left operator right leftLong false, rest)
  | _ => .error .ends

/-- A test of one operand at the front of the words. -/
def readUnary (look : Condition.Look) : List String → Result
  | operator :: rest =>
    if !Condition.unaries.contains operator && operator != "-N" then .error (.noUnary operator)
    else
      match rest with
      | [] => .error .ends
      | operand :: rest =>
        match operator with
        | "-t" => do
          let _ ← integer operand
          return (false, rest)
        | "-N" => .ok ((look true (Raw.toText operand)).isSome, rest)
        | _ =>
          match Condition.unary look operator operand with
          | .ok value => .ok (value, rest)
          | .error _ => .error (.noInteger operand)
  | [] => .error .ends

/-! ## Few words -/

def one : List String → Result
  | word :: rest => .ok (!word.isEmpty, rest)
  | [] => .error .ends

def negate (result : Result) : Result :=
  result.map fun (value, rest) => (!value, rest)

def two (look : Condition.Look) (words : List String) : Result :=
  match words with
  | "!" :: rest => negate (one rest)
  | word :: _ => if isUnary word then readUnary look words else .error .ends
  | [] => .error .ends

/-! ## Expressions -/

mutual

/-- Reads as many words as there are said to be. -/
def few (look : Condition.Look) : Nat → Nat → List String → Result
  | 0, _, _ => .error .ends
  | fuel + 1, count, words =>
    let closed (inner : Result) : Result := inner.map fun (value, rest) => (value, rest.tail)
    match count, words with
    | 1, words => one words
    | 2, words => two look words
    | 3, words => three look fuel words
    | 4, "!" :: rest => negate (three look fuel rest)
    | 4, "(" :: a :: b :: ")" :: rest => closed (two look (a :: b :: ")" :: rest))
    | _, words => disjunction look fuel words

def three (look : Condition.Look) : Nat → List String → Result
  | 0, _ => .error .ends
  | fuel + 1, words =>
    match words with
    | first :: operator :: last :: rest =>
      if isBinary operator then readBinary look false words
      else if first = "!" then negate (two look (operator :: last :: rest))
      else if first = "(" && last = ")" then .ok (!operator.isEmpty, rest)
      else if operator = "-a" || operator = "-o" then disjunction look fuel words
      else .error (.noBinary operator)
    | _ => .error .ends

def disjunction (look : Condition.Look) : Nat → List String → Result
  | 0, _ => .error .ends
  | fuel + 1, words => do
    let (left, rest) ← conjunction look fuel words
    match rest with
    | "-o" :: rest =>
      let (right, rest) ← disjunction look fuel rest
      return (left || right, rest)
    | rest => return (left, rest)

def conjunction (look : Condition.Look) : Nat → List String → Result
  | 0, _ => .error .ends
  | fuel + 1, words => do
    let (left, rest) ← term look fuel words
    match rest with
    | "-a" :: rest =>
      let (right, rest) ← conjunction look fuel rest
      return (left && right, rest)
    | rest => return (left, rest)

def term (look : Condition.Look) : Nat → List String → Result
  | 0, _ => .error .ends
  | fuel + 1, words =>
    match words with
    | [] => .error .ends
    | "!" :: rest => negate (term look fuel rest)
    | ["("] => .error .ends
    | "(" :: rest => do
      let inner := (rest.tail.takeWhile (· != ")")).length + 1
      let (value, rest) ← few look fuel (if 4 < inner then rest.length else inner) rest
      match rest with
      | ")" :: rest => return (value, rest)
      | found => throw (.unclosed found.head?)
    | first :: rest =>
      if first = "-l" && 4 ≤ words.length && (words[2]?).any isBinary then readBinary look true words
      else if 3 ≤ words.length && (rest.head?).any isBinary then readBinary look false words
      else if isUnary first then readUnary look words
      else .ok (!first.isEmpty, rest)

end

/-- Decides a condition given as words. -/
def holds (look : Condition.Look) (words : List String) : Except Fault Bool := do
  if words.isEmpty then return false
  let (value, rest) ← few look (8 * words.length + 16) words.length words
  match rest with
  | [] => return value
  | word :: _ => throw (.extra word)

def run (bracket : Bool) : Program := fun start => do
  let look := (← kernel).status?
  let closed := start.args.getLast? == some "]"
  let words := if bracket then start.args.dropLast else start.args
  if bracket && (start.args == ["--help"] || start.args == ["--version"]) then return 0
  else
    match if bracket && !closed then .error .noBracket else holds look words with
    | .ok value => return if value then 0 else 1
    | .error fault =>
      start.say (fault.message start words)
      return 2

end Crosscheck.Shell.Test
