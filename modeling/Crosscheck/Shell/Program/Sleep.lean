import Crosscheck.Number.Floating
import Crosscheck.Shell.Program

/-! # Sleep

Waits for the sum of its arguments, each a number with an optional unit.
-/

namespace Crosscheck.Shell.Sleep

open Act

/-- A time to wait; none if it has no end. -/
abbrev Duration := Option Nat

/-- How many seconds a unit has. -/
def unit? : List Char → Option Nat
  | [] | ['s'] => some 1
  | ['m'] => some 60
  | ['h'] => some 3600
  | ['d'] => some 86400
  | _ => none

/-- A duration in microseconds, rounded up. -/
def ofText (text : String) : Option Duration := do
  let read := Number.Floating.leading .double text.toList
  let unit ← unit? read.rest
  if !read.found then none
  else
    match read.value with
    | .infinite false => some none
    | .finite negative mantissa exponent =>
      if negative && mantissa ≠ 0 then none
      else
        let (num, den) := Number.Floating.scaled 2 (mantissa * unit * 1000000) 1 exponent
        some (some ((num + den - 1) / den))
    | _ => none

/-- Waits for a time, whatever caught signals come in between. -/
def passUntil (moment : Moment) : Nat → Act Unit
  | 0 => pure ()
  | tries + 1 => do
    await (fun _ => false) (some moment)
    if (← kernel).clock < moment then passUntil moment tries

def run : Program := fun start => do
  match ← start.options { letters := [] } with
  | none => return 1
  | some chosen =>
    let times := chosen.operands.map fun arg => (arg, ofText arg)
    let wrong := times.filter (·.2.isNone)
    if times.isEmpty then start.refuse "missing operand"
    else if !wrong.isEmpty then
      for (arg, _) in wrong do start.say ("invalid time interval " ++ start.marked arg)
      start.hint
      return 1
    else
      let durations := times.filterMap (·.2)
      if durations.any Option.isNone then hang
      else
        let total := durations.foldl (fun sum d => sum + d.getD 0) 0
        passUntil ((← kernel).clock + total) 1000
        return 0

end Crosscheck.Shell.Sleep
