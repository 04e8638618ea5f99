import Crosscheck.Shell.Kernel
import Crosscheck.Shell.Numeral

/-! # Conditions

The language of `test`: files, texts and numbers are compared. Whether a word is an operator depends
on the words around it, so the words are looked at from a place that moves along them.
-/

namespace Crosscheck.Shell.Condition

inductive Fault where
  | illegalNumber (text : String)
  | missing (operator : String)
  | unexpected (word : String)
  | unclosed
  /-- A bracket that has no partner. -/
  | noBracket
  deriving DecidableEq, Repr

def Fault.message : Fault → String
  | illegalNumber text => "Illegal number: " ++ text
  | missing operator => operator ++ ": argument expected"
  | unexpected word => (if word.isEmpty then "" else word ++ ": ") ++ "unexpected operator"
  | unclosed => "closing paren expected"
  | noBracket => "missing ]"

/-- What a word can be. -/
inductive Role where
  | unary
  | binary
  | negation
  | conjunction
  | disjunction
  | opening
  | closing
  /-- There is no word. -/
  | ending
  deriving DecidableEq, Repr

def unaries : List String :=
  ["-r", "-w", "-x", "-e", "-f", "-d", "-c", "-b", "-p", "-u", "-g", "-k", "-s", "-t", "-z", "-n", "-h",
    "-O", "-G", "-L", "-S"]

def binaries : List String :=
  ["=", "!=", "<", ">", "-eq", "-ne", "-ge", "-gt", "-le", "-lt", "-nt", "-ot", "-ef"]

def role? (word : String) : Option Role :=
  if unaries.contains word then some .unary
  else if binaries.contains word then some .binary
  else
    match word with
    | "!" => some .negation
    | "-a" => some .conjunction
    | "-o" => some .disjunction
    | "(" => some .opening
    | ")" => some .closing
    | _ => none

def integer (text : String) : Except Fault Int :=
  match Numeral.whole? (some 10) text with
  | some n => .ok n
  | none => .error (.illegalNumber text)

/-! ## Operands -/

/-- What there is at a path, links at its end followed or not. -/
abbrev Look := Bool → String → Option Kernel.Status

/-- A test of one operand. The user may do anything but run what nobody may run, and write where the
system shows what it knows, which has no size. -/
def unary (look : Look) (operator operand : String) : Except Fault Bool :=
  let path := Raw.toText operand
  let node (test : Node → Bool) : Except Fault Bool := .ok ((look true path).any (test ·.node))
  let mode (bit : Nat) : Except Fault Bool :=
    .ok ((look true path).any fun status => Nat.land status.mode bit != 0)
  match operator with
  | "-n" => .ok (!operand.isEmpty)
  | "-z" => .ok operand.isEmpty
  | "-t" => do
    let _ ← integer operand
    return false
  | "-e" | "-r" | "-O" | "-G" => node fun _ => true
  | "-w" => .ok ((look true path).any fun status =>
    !status.node.isDirectory || status.place.length != 2 || !Kernel.isShown status.place)
  | "-c" => node fun
    | .device _ => true
    | _ => false
  | "-f" => node fun
    | .file _ _ => true
    | _ => false
  | "-d" => node Node.isDirectory
  | "-p" => node fun
    | .stream _ => true
    | _ => false
  | "-s" => .ok ((look true path).any fun status =>
    !Kernel.isShown status.place &&
      (match status.node with
      | .file content _ => !content.isEmpty
      | .directory _ | .link _ => true
      | .device _ | .stream _ => false))
  | "-x" => node fun
    | .file _ executable => executable
    | .directory _ | .link _ => true
    | .device _ | .stream _ => false
  | "-h" | "-L" => .ok ((look false path).any fun status =>
    match status.node with
    | .link _ => true
    | _ => false)
  | "-u" => mode 0o4000
  | "-g" => mode 0o2000
  | "-k" => mode 0o1000
  | _ => .ok false

/-- A test of two operands. Of two files one is newer if it was changed at least a step of the clock
later. -/
def binary (look : Look) (left operator right : String) : Except Fault Bool :=
  let compare (test : Int → Int → Bool) : Except Fault Bool := do
    return test (← integer left) (← integer right)
  let files (test : Kernel.Status → Kernel.Status → Bool) : Except Fault Bool :=
    match look true (Raw.toText left), look true (Raw.toText right) with
    | some one, some other => .ok (test one other)
    | _, _ => .ok false
  match operator with
  | "=" => .ok (left = right)
  | "!=" => .ok (left ≠ right)
  | "<" => .ok (left < right)
  | ">" => .ok (right < left)
  | "-eq" => compare (· == ·)
  | "-ne" => compare (· != ·)
  | "-lt" => compare (fun a b => a < b)
  | "-le" => compare (fun a b => a ≤ b)
  | "-gt" => compare (fun a b => a > b)
  | "-ge" => compare (fun a b => a ≥ b)
  | "-ef" => files (·.place == ·.place)
  | "-nt" => files fun one other => other.changed + Kernel.tick ≤ one.changed
  | "-ot" => files fun one other => one.changed + Kernel.tick ≤ other.changed
  | _ => .ok false

/-! ## Expressions -/

/-- Whether a unary operator at the front is an operand after all. -/
def isOperand : List String → Bool
  | [] | [_] => true
  | [_, _] => false
  | _ :: next :: _ => role? next == some .binary

/-- The role of the word at the front; none for an operand. -/
def lex (words : List String) : Option Role :=
  match words with
  | [] => some .ending
  | word :: rest =>
    match role? word with
    | some .unary => if isOperand words then none else some .unary
    | some .opening => if rest.isEmpty then none else some .opening
    | role => role

/-- A place among the words: those from it on. -/
abbrev Place := List String

mutual

/-- Each function leaves the place at the last word that belongs to it. -/
def disjunction (look : Look) : Nat → Option Role → Place → Except Fault (Bool × Place)
  | 0, _, _ => .error .unclosed
  | fuel + 1, role, place => do
    let (left, place) ← conjunction look fuel role place
    if lex place.tail == some .disjunction then
      let place := place.drop 2
      let (right, place) ← disjunction look fuel (lex place) place
      return (left || right, place)
    else return (left, place)

def conjunction (look : Look) : Nat → Option Role → Place → Except Fault (Bool × Place)
  | 0, _, _ => .error .unclosed
  | fuel + 1, role, place => do
    let (left, place) ← negation look fuel role place
    if lex place.tail == some .conjunction then
      let place := place.drop 2
      let (right, place) ← conjunction look fuel (lex place) place
      return (left && right, place)
    else return (left, place)

def negation (look : Look) : Nat → Option Role → Place → Except Fault (Bool × Place)
  | 0, _, _ => .error .unclosed
  | fuel + 1, role, place => do
    if role == some .negation then
      let after := place.tail
      let (value, place) ← negation look fuel (lex after) (if after.isEmpty then place else after)
      return (!value, place)
    else primary look fuel role place

def primary (look : Look) : Nat → Option Role → Place → Except Fault (Bool × Place)
  | 0, _, _ => .error .unclosed
  | fuel + 1, role, place =>
    match place with
    | [] => .ok (false, [])
    | word :: rest =>
      match role with
      | some .ending => .ok (false, place)
      | some .opening =>
        if lex rest == some .closing then .ok (false, rest)
        else do
          let (value, place) ← disjunction look fuel (lex rest) rest
          if lex place.tail == some .closing then return (value, place.tail)
          else .error .unclosed
      | some .unary =>
        match rest with
        | [] => .error (.missing word)
        | operand :: _ => do return (← unary look word operand, rest)
      | _ =>
        match rest, lex rest with
        | operator :: others, some .binary =>
          match others with
          | [] => .error (.missing operator)
          | operand :: _ => do return (← binary look word operator operand, others)
        | _, _ => .ok (!word.isEmpty, place)

end

/-- Decides a condition; with four words or less their number has a say. -/
def decideWords (look : Look) : Nat → Bool → List String → Except Fault Bool
  | 0, _, _ => .error .unclosed
  | fuel + 1, negated, words =>
    let finish (role : Option Role) (words : List String) : Except Fault Bool := do
      let (value, place) ← disjunction look (4 * words.length + 8) role words
      if 1 < place.length then throw (.unexpected (place.headD ""))
      return value != negated
    let few := words.length = 3 || words.length = 4
    if words.isEmpty then .ok negated
    else if words.length = 3 && (words[1]?.bind role?) == some .binary then finish none words
    else if few && words.head? == some "(" && words.getLast? == some ")" then
      let inner := words.tail.dropLast
      finish (lex inner) inner
    else if few && words.head? == some "!" then decideWords look fuel true words.tail
    else finish (lex words) words

/-- Decides a condition given as words. -/
def holds (look : Look) (words : List String) : Except Fault Bool :=
  decideWords look 8 false words

/-- Decides a condition that stands in brackets; the opening one is left out. -/
def bracketed (look : Look) (words : List String) : Except Fault Bool :=
  if words.getLast?.any (·.toList.head? == some ']') then holds look words.dropLast else .error .noBracket

end Crosscheck.Shell.Condition
