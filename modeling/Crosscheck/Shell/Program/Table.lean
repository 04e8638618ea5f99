import Crosscheck.Shell.Program.Cat
import Crosscheck.Shell.Program.Chmod
import Crosscheck.Shell.Program.Copy
import Crosscheck.Shell.Program.Echo
import Crosscheck.Shell.Program.Head
import Crosscheck.Shell.Program.Make
import Crosscheck.Shell.Program.Remove
import Crosscheck.Shell.Program.Sleep
import Crosscheck.Shell.Program.Test
import Crosscheck.Shell.Program.Tr

/-! # The programs of the machine -/

namespace Crosscheck.Shell

open Act

namespace Program

/-- Writes a line again and again. -/
def yes : Program := fun start => do
  let line := (" ".intercalate (if start.args.isEmpty then ["y"] else start.args)) ++ "\n"
  let block := Raw.toBytes (List.replicate (8192 / line.length + 1) line.toList).flatten
  let rec again : Nat → Act Nat
    | 0 => hang
    | fuel + 1 => do
      pause blockTime
      match ← write 1 block with
      | none => again fuel
      | some reason =>
        start.say ("standard output: " ++ reason)
        return 1
  again patience

/-- All programs with their names. -/
def all : List (String × Program) :=
  [("cat", Cat.run), ("head", Head.run), ("tr", Tr.run), ("sleep", Sleep.run),
    ("true", fun _ => return 0), ("false", fun _ => return 1), ("printf", Echo.runPrintf),
    ("echo", Echo.run), ("test", Test.run false), ("[", Test.run true), ("yes", yes), ("cp", Copy.cp),
    ("mv", Copy.mv), ("rm", Remove.rm), ("rmdir", Remove.rmdir), ("mkdir", Make.mkdir),
    ("touch", Make.touch), ("ln", Make.ln), ("chmod", Chmod.run)]

end Program

end Crosscheck.Shell
