import Crosscheck.Process

/-! # Problems of the harness itself

A program under test that misbehaves is a verdict. An `Error` says that the harness could not do its
own work: the build failed, a tool could not be started, a file could not be touched, or what was
asked for does not exist.
-/

namespace Crosscheck

inductive Error where
  /-- The build ran and did not succeed. -/
  | build (command : String) (state : ExitState) (stderr : String)
  /-- A program could not be started. -/
  | spawn (program : String) (cause : String)
  | io (path : String) (doing : String) (cause : String)
  | config (path : String) (reason : String)
  | discovery (dir : String) (reason : String)
  | duplicateName (name : String)
  | unknownCase (name : String) (path : String)
  deriving DecidableEq, Repr

namespace Error

/-- One line on what went wrong, without its cause. -/
def message : Error → String
  | build command state _ => "build failed: `" ++ command ++ "` " ++ state.message
  | spawn program _ => "failed to spawn `" ++ program ++ "`"
  | io path doing _ => "i/o error on '" ++ path ++ "': " ++ doing
  | config path reason => "invalid config '" ++ path ++ "': " ++ reason
  | discovery dir reason => "cannot enumerate corpus directory '" ++ dir ++ "': " ++ reason
  | duplicateName name => "duplicate test case name '" ++ name ++ "'"
  | unknownCase name path =>
    "unknown test case '" ++ name ++ "': no source file at '" ++ path ++ "'"

/-- A stable identifier of the kind of problem. -/
def code : Error → String
  | build .. => "harness::build::failed"
  | spawn .. => "harness::process::spawn"
  | io .. => "harness::io"
  | config .. => "harness::config::invalid"
  | discovery .. => "harness::corpus::discovery"
  | duplicateName .. => "harness::corpus::duplicate"
  | unknownCase .. => "harness::corpus::unknown"

/-- Advice, where there is some to give. -/
def help? : Error → Option String
  | build .. =>
    some "the compiler binary and runtime archive must build before any test case can run"
  | spawn .. =>
    some "check that the program is installed and on PATH, or fix its path in the config"
  | duplicateName _ =>
    some "executables are written as ./<name>; names must be unique across the corpus"
  | _ => none

/-- What the system said. -/
def cause? : Error → Option String
  | spawn _ cause => some cause
  | io _ _ cause => some cause
  | _ => none

def isBuildFailure : Error → Bool
  | build .. => true
  | _ => false

end Error

end Crosscheck
