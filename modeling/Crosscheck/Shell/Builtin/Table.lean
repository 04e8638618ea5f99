import Crosscheck.Shell.Builtin.Jobs
import Crosscheck.Shell.Builtin.Limits
import Crosscheck.Shell.Builtin.Lookup
import Crosscheck.Shell.Builtin.Place

/-! # All commands of the shell that run no other commands -/

namespace Crosscheck.Shell.Builtin

open Act

/-- The command of a name. -/
def find? (name : String) : Option (List String → Act Nat) :=
  match name with
  | ":" | "true" => some fun _ => return 0
  | "false" => some fun _ => return 1
  | "[" => some (test true)
  | "test" => some (test false)
  | "alias" => some setAlias
  | "bg" | "fg" => some moveJob
  | "break" => some (leaveLoops false)
  | "continue" => some (leaveLoops true)
  | "cd" | "chdir" => some cd
  | "command" => some command
  | "echo" => some echo
  | "exit" => some exit
  | "export" => some exportNames
  | "getopts" => some getopts
  | "hash" => some hash
  | "jobs" => some jobs
  | "kill" => some kill
  | "local" => some localNames
  | "printf" => some printf
  | "pwd" => some pwd
  | "read" => some readVariables
  | "readonly" => some readonlyNames
  | "return" => some returnFrom
  | "set" => some set
  | "shift" => some shift
  | "times" => some times
  | "trap" => some trap
  | "type" => some type
  | "ulimit" => some ulimit
  | "umask" => some umask
  | "unalias" => some unalias
  | "unset" => some unset
  | "wait" => some wait
  | _ => none

end Crosscheck.Shell.Builtin
