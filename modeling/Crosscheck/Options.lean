import Crosscheck.Settings

/-! # Options

What a command line can ask for, and the switches and settings that each command knows.
-/

namespace Crosscheck

/-- The commands. -/
inductive Verb where
  | run | list | build
  deriving DecidableEq, Repr

namespace Verb

def all : List Verb := [run, list, build]

def name : Verb → String
  | run => "run"
  | list => "list"
  | build => "build"

def ofName? (word : String) : Option Verb :=
  all.find? (·.name == word)

end Verb

/-- What a switch turns on. -/
inductive Switch where
  | help | version | verbose | all | failFast | skipBuild
  deriving DecidableEq, Repr

/-- What takes a value. -/
inductive Setting where
  | config | filter | corpusDir | compiler | runtime | reference | linker | timeout
  deriving DecidableEq, Repr

namespace Switch

def long : Switch → String
  | help => "help"
  | version => "version"
  | verbose => "verbose"
  | all => "all"
  | failFast => "fail-fast"
  | skipBuild => "skip-build"

def short? : Switch → Option Char
  | help => some 'h'
  | version => some 'V'
  | verbose => some 'v'
  | _ => none

end Switch

namespace Setting

def long : Setting → String
  | config => "config"
  | filter => "filter"
  | corpusDir => "corpus-dir"
  | compiler => "compiler"
  | runtime => "runtime"
  | reference => "reference"
  | linker => "linker"
  | timeout => "timeout"

/-- Whether the value is a path. A path is never empty. -/
def isPath : Setting → Bool
  | filter | timeout => false
  | _ => true

end Setting

/-- Where words are read: before the command, or after it. -/
inductive Level where
  | top
  | command (verb : Verb)
  deriving DecidableEq, Repr

namespace Level

def switches : Level → List Switch
  | top => [.verbose, .help, .version]
  | command .run => [.all, .failFast, .skipBuild, .verbose, .help]
  | command _ => [.verbose, .help]

def settings : Level → List Setting
  | top => [.config]
  | command .run =>
    [.filter, .config, .corpusDir, .compiler, .runtime, .reference, .linker, .timeout]
  | command _ => [.config, .corpusDir, .compiler, .runtime, .reference, .linker, .timeout]

def switch? (level : Level) (long : String) : Option Switch :=
  level.switches.find? (·.long == long)

def short? (level : Level) (letter : Char) : Option Switch :=
  level.switches.find? (·.short? == some letter)

def setting? (level : Level) (long : String) : Option Setting :=
  level.settings.find? (·.long == long)

/-- Only `run` takes names. -/
def takesNames (level : Level) : Bool :=
  level = command .run

end Level

/-- Which cases to run, and how. -/
structure Selection where
  names : List String := []
  all : Bool := false
  filter : Option String := none
  failFast : Bool := false
  skipBuild : Bool := false
  deriving DecidableEq, Repr

inductive Order where
  | run (selection : Selection)
  | list
  | build
  deriving DecidableEq, Repr

namespace Order

def verb : Order → Verb
  | run _ => .run
  | list => .list
  | build => .build

end Order

/-- A command line that was understood. -/
structure Request where
  order : Order
  configFile : Option String := none
  verbose : Bool := false
  overrides : Overrides := {}
  deriving DecidableEq, Repr

/-- What is wrong with a command line. -/
inductive UsageError where
  /-- Nothing was asked for at all. -/
  | nothingAsked
  | commandMissing
  | unknownCommand
  | unknownArgument
  /-- A setting without a value, or with an empty path. -/
  | valueMissing
  | valueInvalid
  /-- A switch with a value. -/
  | valueUnexpected
  /-- Given twice, or with something that excludes it. -/
  | conflict
  deriving DecidableEq, Repr

def UsageError.message : UsageError → String
  | nothingAsked | commandMissing => "a command is needed; see --help"
  | unknownCommand => "there is no such command; see --help"
  | unknownArgument => "an argument is not known; see --help"
  | valueMissing => "an option needs a value"
  | valueInvalid => "the value of an option is not valid"
  | valueUnexpected => "an option takes no value"
  | conflict => "arguments exclude each other"

/-- What help is about. -/
inductive Topic where
  | program
  | command (verb : Verb)
  | help
  deriving DecidableEq, Repr

/-- Why no command is carried out. -/
inductive Stop where
  | help (topic : Topic)
  | version
  | usage (error : UsageError)
  deriving DecidableEq, Repr

end Crosscheck
