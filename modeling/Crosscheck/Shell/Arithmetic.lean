import Crosscheck.Shell.Numeral

/-! # Arithmetic of the shell

Whole numbers of 64 bits. Names stand for the values of variables, and may be assigned to. What does
not count for the result, such as the other side of a choice, is read but not worked out.
-/

namespace Crosscheck.Shell.Arithmetic

inductive Token where
  | number (value : Int)
  | name (text : String)
  | sign (text : String)
  /-- A character that stands for nothing. -/
  | bad
  deriving DecidableEq, Repr

/-- Signs, the longer ones first. -/
def signs : List String :=
  ["<<=", ">>=", "==", "!=", "<=", ">=", "&&", "||", "<<", ">>", "+=", "-=", "*=", "/=", "%=", "&=",
    "|=", "^=", "+", "-", "*", "/", "%", "(", ")", "<", ">", "=", "!", "~", "&", "|", "^", "?", ":"]

def tokens : Nat → List Char → List Token
  | 0, _ => []
  | _, [] => []
  | fuel + 1, c :: rest =>
    let text := c :: rest
    if c == ' ' || c == '\t' || c == '\n' then tokens fuel rest
    else if c.isDigit then
      let read := Numeral.leading none text
      .number (Numeral.saturate read.value) :: tokens fuel read.rest
    else if c.isAlpha || c == '_' then
      let name := text.takeWhile (fun c => c.isAlphanum || c == '_')
      .name (String.ofList name) :: tokens fuel (text.drop name.length)
    else
      match signs.find? (fun sign => sign.toList.isPrefixOf text) with
      | some sign => .sign sign :: tokens fuel (text.drop sign.length)
      | none => [.bad]

/-- Wraps to 64 bits. -/
def wrap (n : Int) : Int :=
  Int.bmod n UInt64.size

inductive Failure where
  | expecting (what : String)
  | division
  /-- A variable whose value is no number. -/
  | notNumber (text : String)
  | readonly (name : String)
  /-- A quotient that has more than 64 bits. -/
  | overflow
  deriving DecidableEq, Repr

structure State where
  rest : List Token
  /-- Variables that have been assigned to, latest first. -/
  assigned : List (String × Int) := []

abbrev Eval := StateT State (Except Failure)

/-- What is known of variables: their values, and which ones must keep theirs. -/
structure Variables where
  value : String → Option String
  readonly : String → Bool

/-- How strongly a sign between two operands binds. -/
def strength : String → Option Nat
  | "|" => some 3
  | "^" => some 4
  | "&" => some 5
  | "==" | "!=" => some 6
  | "<" | ">" | "<=" | ">=" => some 7
  | "<<" | ">>" => some 8
  | "+" | "-" => some 9
  | "*" | "/" | "%" => some 10
  | _ => none

def truth (b : Bool) : Int := if b then 1 else 0

/-- Bitwise operations on two's complement. -/
def bitwise (op : Nat → Nat → Nat) (a b : Int) : Int :=
  wrap (op (a.emod UInt64.size).toNat (b.emod UInt64.size).toNat)

def combine (sign : String) (a b : Int) : Except Failure Int :=
  let places := (b.emod 64).toNat
  let divided (quotient : Int) : Except Failure Int :=
    if b = 0 then .error .division
    else if a = Numeral.least && b = -1 then .error .overflow
    else .ok quotient
  match sign with
  | "|" => .ok (bitwise (· ||| ·) a b)
  | "^" => .ok (bitwise (· ^^^ ·) a b)
  | "&" => .ok (bitwise (· &&& ·) a b)
  | "==" => .ok (truth (a == b))
  | "!=" => .ok (truth (a != b))
  | "<" => .ok (truth (a < b))
  | ">" => .ok (truth (a > b))
  | "<=" => .ok (truth (a ≤ b))
  | ">=" => .ok (truth (a ≥ b))
  | "<<" => .ok (wrap (a * Nat.pow 2 places))
  | ">>" => .ok (a / Nat.pow 2 places)
  | "+" => .ok (wrap (a + b))
  | "-" => .ok (wrap (a - b))
  | "*" => .ok (wrap (a * b))
  | "/" => divided (a.tdiv b)
  | "%" => divided (a.tmod b)
  | _ => .error (.expecting "EOF")

/-- The sign at the front of an assignment such as `+=`, without its `=`. -/
def assigning? : String → Option String
  | "=" => some ""
  | "+=" => some "+"
  | "-=" => some "-"
  | "*=" => some "*"
  | "/=" => some "/"
  | "%=" => some "%"
  | "&=" => some "&"
  | "|=" => some "|"
  | "^=" => some "^"
  | "<<=" => some "<<"
  | ">>=" => some ">>"
  | _ => none

def peekSign : Eval (Option String) := do
  match (← get).rest with
  | .sign sign :: _ => return some sign
  | _ => return none

def advance : Eval Unit :=
  modify fun s => { s with rest := s.rest.tail }

def expectSign (sign what : String) : Eval Unit := do
  if (← peekSign) == some sign then advance else throw (.expecting what)

def valueOf (env : Variables) (name : String) : Eval Int := do
  match (← get).assigned.lookup name with
  | some n => return n
  | none =>
    let text := (env.value name).getD ""
    match Numeral.whole? none text with
    | some n => return n
    | none => throw (.notNumber text)

def assign (env : Variables) (name : String) (value : Int) : Eval Int := do
  if env.readonly name then throw (.readonly name)
  else
    modify fun s => { s with assigned := (name, value) :: s.assigned }
    return value

mutual

/-- An assignment, or what can stand at its right. With `idle` nothing is worked out. -/
def assignment (env : Variables) : Nat → Bool → Eval Int
  | 0, _ => throw (.expecting "primary")
  | fuel + 1, idle => do
    match (← get).rest with
    | .name name :: .sign sign :: rest =>
      match assigning? sign with
      | some op =>
        modify fun s => { s with rest := rest }
        let right ← assignment env fuel idle
        if idle then return right
        else if op.isEmpty then assign env name right
        else
          let left ← valueOf env name
          assign env name (← combine op left right)
      | none => choice env fuel idle
    | _ => choice env fuel idle

def choice (env : Variables) : Nat → Bool → Eval Int
  | 0, _ => throw (.expecting "primary")
  | fuel + 1, idle => do
    let condition ← disjunction env fuel idle
    if (← peekSign) == some "?" then
      advance
      let yes ← assignment env fuel (idle || condition == 0)
      expectSign ":" "':'"
      let no ← choice env fuel (idle || condition != 0)
      return if condition != 0 then yes else no
    else return condition

def disjunction (env : Variables) : Nat → Bool → Eval Int
  | 0, _ => throw (.expecting "primary")
  | fuel + 1, idle => do
    let left ← conjunction env fuel idle
    if (← peekSign) == some "||" then
      advance
      let right ← disjunction env fuel (idle || left != 0)
      return truth (left != 0 || right != 0)
    else return left

def conjunction (env : Variables) : Nat → Bool → Eval Int
  | 0, _ => throw (.expecting "primary")
  | fuel + 1, idle => do
    let left ← chain env fuel idle 0 (← operand env fuel idle)
    if (← peekSign) == some "&&" then
      advance
      let right ← conjunction env fuel (idle || left == 0)
      return truth (left != 0 && right != 0)
    else return left

/-- Goes on after the left operand with signs that bind more strongly than `weakest`. -/
def chain (env : Variables) : Nat → Bool → Nat → Int → Eval Int
  | 0, _, _, _ => throw (.expecting "primary")
  | fuel + 1, idle, weakest, left => do
    match ← peekSign with
    | none => return left
    | some sign =>
      match strength sign with
      | none => return left
      | some level =>
        if level ≤ weakest then return left
        else
          advance
          let right ← chain env fuel idle level (← operand env fuel idle)
          let value ← if idle then pure right else combine sign left right
          chain env fuel idle weakest value

def operand (env : Variables) : Nat → Bool → Eval Int
  | 0, _ => throw (.expecting "primary")
  | fuel + 1, idle => do
    match (← get).rest with
    | .number n :: _ => advance; return n
    | .name name :: _ =>
      advance
      if idle then return 0 else valueOf env name
    | .sign "(" :: _ =>
      advance
      let inner ← assignment env fuel idle
      expectSign ")" "')'"
      return inner
    | .sign "-" :: _ => advance; return wrap (-(← operand env fuel idle))
    | .sign "+" :: _ => advance; operand env fuel idle
    | .sign "!" :: _ => advance; return truth ((← operand env fuel idle) == 0)
    | .sign "~" :: _ => advance; return -(← operand env fuel idle) - 1
    | _ => throw (.expecting "primary")

end

/-- The value of an expression, and the variables that it assigns. -/
def evaluate (env : Variables) (text : List Char) :
    Except Failure (Int × List (String × Int)) :=
  let tokens := tokens (text.length + 1) text
  match (assignment env (8 * tokens.length + 16) false).run { rest := tokens } with
  | .ok (value, state) =>
    if state.rest.isEmpty then .ok (value, state.assigned.reverse)
    else .error (.expecting "EOF")
  | .error failure => .error failure

end Crosscheck.Shell.Arithmetic
