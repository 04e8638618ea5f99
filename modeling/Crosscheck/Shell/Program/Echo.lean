import Crosscheck.Shell.Printf
import Crosscheck.Shell.Program

/-! # Echo and printf as programs -/

namespace Crosscheck.Shell.Echo

open Act

/-- Writes a text at the end of a program. -/
def finish (start : Start) (status : Nat) (chars : List Char) : Act Nat := do
  match ← write 1 (Raw.toBytes chars) with
  | none => return status
  | some reason =>
    start.say ("write error: " ++ reason)
    return 1

/-- Resolves escapes. What is done comes latest first; the second part tells that output ends here. -/
def unescape : Nat → List Char → List Char → List Char × Bool
  | 0, done, _ => (done.reverse, false)
  | _, done, [] => (done.reverse, false)
  | fuel + 1, done, '\\' :: rest =>
    match rest with
    | 'c' :: _ => (done.reverse, true)
    | 'x' :: d :: others =>
      let digits := ((d :: others).take 2).takeWhile fun c => (Number.digit? c).isSome
      match Number.natural? 16 digits with
      | some n => unescape fuel (Char.ofNat n :: done) ((d :: others).drop digits.length)
      | none => unescape fuel ('\\' :: done) rest
    | _ =>
      let rest :=
        match rest with
        | '0' :: d :: others => if Format.isOctal d then d :: others else rest
        | _ => rest
      let (c, rest) := Format.escape rest
      unescape fuel (c :: done) rest
  | fuel + 1, done, c :: rest => unescape fuel (c :: done) rest

def isFlag (arg : String) : Bool :=
  match arg.toList with
  | '-' :: c :: letters => (c :: letters).all fun c => c == 'n' || c == 'e' || c == 'E'
  | _ => false

def run : Program := fun start => do
  let flags := start.args.takeWhile isFlag
  let letters := flags.flatMap fun flag => flag.toList
  let escapes := (letters.filter fun c => c == 'e' || c == 'E').getLast? == some 'e'
  let text := (" ".intercalate (start.args.drop flags.length)).toList
  let (text, ended) := if escapes then unescape (text.length + 1) [] text else (text, false)
  finish start 0 (if ended || letters.contains 'n' then text else text ++ ['\n'])

def runPrintf : Program := fun start => do
  let args := if start.args.head? == some "--" then start.args.tail else start.args
  match args with
  | [] => start.refuse "missing operand"
  | format :: args =>
    let (printed, left) := Printf.Utility.printed start.utf8 format args
    for complaint in printed.complaints do start.say complaint
    let status ←
      match printed.stop with
      | some (.fatal text) => do
        start.say text
        pure 1
      | some .finished => pure 0
      | none => do
        match left with
        | [] => pure ()
        | arg :: _ =>
          start.say ("warning: ignoring excess arguments, starting with " ++ start.marked arg)
        pure (if printed.failed then 1 else 0)
    let status ← finish start status printed.text
    if printed.lost then
      start.say "write error"
      return 1
    else return status

end Crosscheck.Shell.Echo
