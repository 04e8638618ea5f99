import Crosscheck.Shell.Condition
import Crosscheck.Shell.Expand
import Crosscheck.Shell.Job
import Crosscheck.Shell.Printf

/-! # Commands of the shell

What such commands have in common, and those that only control what comes next or write something.
Each takes its arguments and gives its status.
-/

namespace Crosscheck.Shell.Builtin

open Act

/-! ## Arguments and output -/

/-- Letters that stand together, and the arguments that are left after them. -/
def cluster (letters valued : List Char) (rest : List String) :
    List Char → Act (List (Char × String) × List String)
  | [] => return ([], rest)
  | c :: others => do
    if valued.contains c then
      match others, rest with
      | [], [] => giveUp ("No arg for -" ++ String.singleton c ++ " option")
      | [], value :: rest => return ([(c, value)], rest)
      | others, rest => return ([(c, String.ofList others)], rest)
    else if letters.contains c then
      let (found, rest) ← cluster letters valued rest others
      return ((c, "") :: found, rest)
    else giveUp ("Illegal option -" ++ String.singleton c)

def optionsWithin (letters valued : List Char) :
    Nat → List String → Act (List (Char × String) × List String)
  | 0, args => return ([], args)
  | _, [] => return ([], [])
  | fuel + 1, arg :: rest =>
    match arg.toList with
    | ['-', '-'] => return ([], rest)
    | '-' :: c :: others => do
      let (found, rest) ← cluster letters valued rest (c :: others)
      let (more, operands) ← optionsWithin letters valued fuel rest
      return (found ++ more, operands)
    | _ => return ([], arg :: rest)

/-- Reads options at the start of arguments; some letters need a value. -/
def options (letters valued : List Char) (args : List String) :
    Act (List (Char × String) × List String) :=
  optionsWithin letters valued (args.length + 1) args

/-- The operands of a command that has no options. -/
def operands (args : List String) : Act (List String) :=
  return (← options [] [] args).2

/-- A number that is not negative. -/
def number (text : String) : Act Nat := do
  match Numeral.whole? (some 10) text with
  | some n =>
    if 0 ≤ n && n ≤ 2147483647 then return n.toNat else giveUp ("Illegal number: " ++ text)
  | none => giveUp ("Illegal number: " ++ text)

/-- Writes the output of a command; that spoils its status if it cannot be done. -/
def emit (status : Nat) (text : List Char) : Act Nat := do
  match ← write 1 (Raw.toBytes text) with
  | none => return status
  | some _ =>
    complain ((← scope).commandName.getD "" ++ ": I/O error")
    return status ||| 1

/-- A text between quotes, as the shell would read it. -/
def quoted (text : String) : String :=
  go (text.length + 1) text.toList
where
  go : Nat → List Char → String
    | 0, _ => ""
    | fuel + 1, text =>
      let plain := text.takeWhile (· != '\x27')
      let rest := text.drop plain.length
      let marks := rest.takeWhile (· == '\x27')
      let after := rest.drop marks.length
      "'" ++ String.ofList plain ++ "'"
        ++ (if marks.isEmpty then "" else "\"" ++ String.ofList marks ++ "\"")
        ++ (if after.isEmpty then "" else go fuel after)

/-! ## Control -/

def exit (args : List String) : Act Nat := do
  match args with
  | arg :: _ =>
    let n ← number arg
    modifyScope fun s => { s with final := some n }
  | [] => pure ()
  throw .exit

def returnFrom (args : List String) : Act Nat := do
  match args with
  | arg :: _ =>
    let n ← number arg
    modifyScope fun s => { s with skip := .finish }
    return n
  | [] =>
    modifyScope fun s => { s with skip := .finishAsIs }
    return (← scope).status

/-- Leaves loops, or goes on with the next round of one. -/
def leaveLoops (again : Bool) (args : List String) : Act Nat := do
  let levels ←
    match args with
    | arg :: _ => do
      let n ← number arg
      if n = 0 then giveUp ("Illegal number: " ++ arg)
      pure n
    | [] => pure 1
  let levels := min levels (← scope).loops
  if 0 < levels then
    modifyScope fun s =>
      { s with skip := if again then .again else .leave, skipCount := levels }
  return 0

/-! ## Output -/

def echo (args : List String) : Act Nat := do
  let (line, args) := if args.head? == some "-n" then (false, args.tail) else (true, args)
  let text := (" ".intercalate args).toList
  let (text, ended) := Format.unescaped text
  emit 0 (if line && !ended then text ++ ['\n'] else text)

def printf (args : List String) : Act Nat := do
  match ← operands args with
  | [] => giveUp "usage: printf format [arg ...]"
  | format :: args =>
    let printed := Printf.Command.printed format args
    for complaint in printed.complaints do complain complaint
    match printed.stop with
    | some (.fatal text) =>
      complain text
      let _ ← emit 2 printed.text
      setStatus 2
      throw .error
    | _ => emit (if printed.failed then 1 else 0) printed.text

def test (bracket : Bool) (args : List String) : Act Nat := do
  let look := (← kernel).status?
  match if bracket then Condition.bracketed look args else Condition.holds look args with
  | .ok value => return if value then 0 else 1
  | .error fault => giveUp fault.message

end Crosscheck.Shell.Builtin
