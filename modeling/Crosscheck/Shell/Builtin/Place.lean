import Crosscheck.Shell.Builtin.Variables
import Crosscheck.Shell.Launch

/-! # Commands about directories and modes -/

namespace Crosscheck.Shell.Builtin

open Act

/-! ## Directories -/

/-- Follows a path from a directory by its names alone. Two slashes at the start are not the same as
one, unlike three. -/
def lexical (here path : String) : String :=
  let from_ := if path.startsWith "/" then path else here
  let root := if from_.startsWith "//" && !from_.startsWith "///" then "//" else "/"
  let start := if path.startsWith "/" then [] else (Path.segments here).filter (· != "")
  let names := (Path.segments path).foldl
    (fun names segment =>
      if segment = "" || segment = "." then names
      else if segment = ".." then names.dropLast
      else names ++ [segment])
    start
  root ++ "/".intercalate names

def pathOf (place : Location) : String :=
  Raw.ofText ("/" ++ "/".intercalate place)

/-- Goes to a directory; tells whether that could be done. -/
def enter (physical : Bool) (path : String) : Act Bool := do
  let here := (← scope).here
  let goal := if physical then path else lexical here path
  let disk ← view
  match disk.locate true (Raw.toText goal) with
  | .error _ => return false
  | .ok place =>
    if !(disk.node? place).any Node.isDirectory then return false
    else
      change fun k => k.updateSelf fun e => { e with cwd := place }
      let there := if physical then pathOf place else goal
      modifyScope fun s => { s with here := there }
      for (name, value) in [("OLDPWD", here), ("PWD", there)] do
        assignVariable name value
        putVariable name { value := some value, exported := true }
      return true

/-- Whether a path says itself where it starts. -/
def isRooted (path : String) : Bool :=
  path.startsWith "/" || ["." , ".."].contains ((Path.segments path).headD "")

def cd (args : List String) : Act Nat := do
  let (letters, words) ← options ['L', 'P'] [] args
  let physical := letters.getLast?.map (·.1) == some 'P'
  let scope ← scope
  let back := words.head? == some "-"
  let goal :=
    match words with
    | [] => (valueOf? scope "HOME").getD ""
    | word :: _ => if back then (valueOf? scope "OLDPWD").getD "" else word
  let goal := if goal.isEmpty then "." else goal
  let places : List (String × Bool) :=
    if isRooted goal then [(goal, back)]
    else
      let search := (valueOf? scope "CDPATH").elim [""] fun text =>
        (Launch.atColons text.toList).map String.ofList
      search.map (fun place => (if place.isEmpty then goal else place ++ "/" ++ goal,
        back || !place.isEmpty)) ++ [(goal, back)]
  let disk ← view
  let (path, told) :=
    (places.find? fun (path, _) => disk.isDir (Raw.toText path)).getD (goal, back)
  if ← enter physical path then
    if told then
      let here ← Act.scope
      emit 0 (here.here ++ "\n").toList
    else return 0
  else giveUp ("can't cd to " ++ goal)

def pwd (args : List String) : Act Nat := do
  let (letters, _) ← options ['L', 'P'] [] args
  if letters.getLast?.map (·.1) == some 'P' then
    let place := (← disk).cwd
    emit 0 (pathOf place ++ "\n").toList
  else emit 0 ((← scope).here ++ "\n").toList

/-! ## The mask of modes -/

/-- The bits of a class of users, one for each class that is meant. -/
def classBits : Char → Nat
  | 'u' => 64
  | 'g' => 8
  | 'o' => 1
  | _ => 73

/-- The rights that letters stand for, where other classes lend theirs. -/
def rights (allowed : Nat) (letters : List Char) : Nat :=
  letters.foldl
    (fun bits c =>
      bits ||| (match c with
        | 'r' => 4
        | 'w' => 2
        | 'x' => 1
        | 'u' => allowed / 64 % 8
        | 'g' => allowed / 8 % 8
        | 'o' => allowed % 8
        | 'X' => if allowed &&& 73 != 0 then 1 else 0
        | _ => 0))
    0

/-- What is left of some rights without others. -/
def without (all some : Nat) : Nat := all - (all &&& some)

/-- Applies steps such as `g-w,o+x` to rights; nothing if they are malformed. -/
def applyMode (allowed : Nat) : Nat → Option Nat → Nat → List Char → Option Nat
  | 0, _, _, _ => none
  | _, _, now, [] => some now
  | fuel + 1, classes, now, text =>
    let who := text.takeWhile fun c => "augo".toList.contains c
    let rest := text.drop who.length
    let classes := who.foldl (fun bits c => bits ||| classBits c) (classes.getD 0)
    let classes := if classes = 0 then 73 else classes
    match rest with
    | operator :: rest =>
      if !("=+-".toList.contains operator) then none
      else
        let letters := rest.takeWhile fun c => "rwxugoXs".toList.contains c
        let rest := rest.drop letters.length
        let value := rights allowed letters * classes
        let now :=
          match operator with
          | '-' => without now value
          | '+' => now ||| value
          | _ => value ||| without now (classes * 7)
        match rest with
        | [] => some now
        | ',' :: rest => applyMode allowed fuel none now rest
        | c :: _ => if "=+-".toList.contains c then applyMode allowed fuel (some classes) now rest else none
    | [] => some now

/-- The mask in letters. -/
def maskText (mask : Nat) : String :=
  let part (name : String) (shift : Nat) : String :=
    let kept := without 7 (mask / shift % 8)
    name ++ "=" ++ (if kept / 4 % 2 = 1 then "r" else "") ++ (if kept / 2 % 2 = 1 then "w" else "")
      ++ (if kept % 2 = 1 then "x" else "")
  part "u" 64 ++ "," ++ part "g" 8 ++ "," ++ part "o" 1

def umask (args : List String) : Act Nat := do
  let (letters, words) ← options ['S'] [] args
  let k ← kernel
  let mask := (k.entry? k.self).elim 18 (·.mask)
  let setMask (n : Nat) : Act Nat := do
    change fun k => k.updateSelf fun e => { e with mask := n % 512 }
    return 0
  match words with
  | [] =>
    if letters.isEmpty then
      let digits := Nat.toDigits 8 mask
      emit 0 (List.replicate (4 - digits.length) '0' ++ digits ++ ['\n'])
    else emit 0 (maskText mask ++ "\n").toList
  | word :: _ =>
    if word.toList.head?.any Char.isDigit then
      match Number.natural? 8 word.toList with
      | some n => setMask n
      | none => giveUp ("Illegal number: " ++ word)
    else
      let allowed := without 511 mask
      match applyMode allowed (word.length + 1) none allowed word.toList with
      | some allowed => setMask (without 511 allowed)
      | none => giveUp ("Illegal mode: " ++ word)

def times (_ : List String) : Act Nat :=
  emit 0 "0m0.000000s 0m0.000000s\n0m0.000000s 0m0.000000s\n".toList

end Crosscheck.Shell.Builtin
