import Crosscheck.Number.Reading
import Crosscheck.Options

/-! # Reading a command line

Words are read from left to right. A setting that takes the next word as its value stays pending: it
takes effect, and is checked, when the next switch or setting is met or the words of its level end.
The words before the command are settled after those behind it.
-/

namespace Crosscheck.Options

/-- What a level has been given so far. -/
structure Given where
  switches : List Switch := []
  values : List (Setting × String) := []
  names : List String := []
  /-- A setting that has not taken effect yet, with its value if it has one. -/
  pending : Option (Setting × Option String) := none
  /-- All further words are names. -/
  namesOnly : Bool := false
  deriving DecidableEq, Repr

namespace Given

/-- The setting that waits for the next word as its value. -/
def awaiting? (given : Given) : Option Setting :=
  match given.pending with
  | some (setting, none) => some setting
  | _ => none

def value? (given : Given) (setting : Setting) : Option String :=
  given.values.lookup setting

def has (given : Given) (switch : Switch) : Bool :=
  given.switches.contains switch

/-- Nothing has been given. -/
def isEmpty (given : Given) : Bool :=
  given.switches.isEmpty && given.values.isEmpty

end Given

/-- A whole number of 64 bits with an optional plus. -/
def wholeNumber? (text : String) : Option Nat :=
  (Number.natural? 10 (Number.dropPlus text.toList)).filter (· < UInt64.size)

/-- Gives a setting a value. -/
def assign (setting : Setting) (value : String) (given : Given) : Except Stop Given :=
  if (given.value? setting).isSome then .error (.usage .conflict)
  else if setting.isPath && value.isEmpty then .error (.usage .valueMissing)
  else if setting = .timeout && (wholeNumber? value).isNone then .error (.usage .valueInvalid)
  else .ok { given with values := given.values ++ [(setting, value)] }

/-- Lets the pending setting take effect. -/
def settle (given : Given) : Except Stop Given :=
  match given.pending with
  | none => .ok given
  | some (_, none) => .error (.usage .valueMissing)
  | some (setting, some value) => assign setting value { given with pending := none }

def topic : Level → Topic
  | .top => .program
  | .command verb => .command verb

def turnOn (level : Level) (switch : Switch) (given : Given) : Except Stop Given := do
  let given ← settle given
  match switch with
  | .help => .error (.help (topic level))
  | .version => .error .version
  | switch =>
    if given.has switch then .error (.usage .conflict)
    else return { given with switches := given.switches ++ [switch] }

/-! ## Words -/

/-- Reads a word after `--`, as a name and perhaps a value behind `=`. -/
def readLong (level : Level) (name : String) (value : Option String) (given : Given) :
    Except Stop Given :=
  match level.setting? name, level.switch? name, value with
  | some setting, _, some value => do assign setting value (← settle given)
  | some setting, _, none => do return { ← settle given with pending := some (setting, none) }
  | none, some _, some _ => .error (.usage .valueUnexpected)
  | none, some switch, none => turnOn level switch given
  | none, none, _ => .error (.usage .unknownArgument)

/-- Reads the letters after a single `-`. -/
def readShort (level : Level) : List Char → Given → Except Stop Given
  | [], given => .ok given
  | letter :: rest, given =>
    match level.short? letter with
    | some switch => do readShort level rest (← turnOn level switch given)
    | none => .error (.usage .unknownArgument)

/-- Reads a word that is neither an option nor a command. -/
def readName (level : Level) (word : String) (given : Given) : Except Stop Given :=
  if level.takesNames then do
    let given ← settle given
    return { given with names := given.names ++ [word] }
  else
    .error (.usage
      (if level = .top && !(given.namesOnly && (word = "help" || (Verb.ofName? word).isSome))
        then .unknownCommand else .unknownArgument))

/-- The shape of a word. -/
inductive Shape where
  | divider
  | long (name : String) (value : Option String)
  | short (letters : List Char)
  | plain
  deriving DecidableEq, Repr

def shape (word : String) : Shape :=
  match word.toList with
  | ['-', '-'] => .divider
  | '-' :: '-' :: rest =>
    let name := rest.takeWhile (· != '=')
    let value := (rest.drop name.length).tail?
    .long (String.ofList name) (value.map String.ofList)
  | '-' :: letter :: rest => .short (letter :: rest)
  | _ => .plain

/-- Reads one word. -/
def readWord (level : Level) (word : String) (given : Given) : Except Stop Given :=
  if given.namesOnly then readName level word given
  else
    match shape word with
    | .divider => .ok { given with namesOnly := true }
    | .long name value => readLong level name value given
    | .short letters => readShort level letters given
    | .plain =>
      match given.awaiting? with
      | some setting => .ok { given with pending := some (setting, some word) }
      | none => readName level word given

/-- What help is asked for by the words after `help`. -/
def helpOn : List String → Stop
  | [] => .help .program
  | [word] =>
    match Verb.ofName? word with
    | some verb => .help (.command verb)
    | none => if word = "help" then .help .help else .usage .unknownCommand
  | _ => .usage .unknownCommand

/-- Reads the words before the command. Gives the command, if there is one, with the words behind
it. -/
def readTop : Given → List String → Except Stop (Given × Option (Verb × List String))
  | given, [] => .ok (given, none)
  | given, word :: rest =>
    let free := !given.namesOnly && given.awaiting?.isNone
    match if free then Verb.ofName? word else none with
    | some verb => .ok (given, some (verb, rest))
    | none =>
      if free && word = "help" then .error (helpOn rest)
      else do readTop (← readWord .top word given) rest

/-- Reads the words behind the command. -/
def readCommand (verb : Verb) (words : List String) : Except Stop Given := do
  let given ← words.foldlM (fun given word => readWord (.command verb) word given) {}
  let given ← settle given
  if given.has .all && !given.names.isEmpty then .error (.usage .conflict)
  else return given

/-! ## Requests -/

def orderOf (given : Given) : Verb → Order
  | .run =>
    .run
      { names := given.names
        all := given.has .all
        filter := given.value? .filter
        failFast := given.has .failFast
        skipBuild := given.has .skipBuild }
  | .list => .list
  | .build => .build

def overridesOf (given : Given) : Overrides :=
  { corpusDir := given.value? .corpusDir
    compiler := given.value? .compiler
    runtime := given.value? .runtime
    reference := given.value? .reference
    linker := given.value? .linker
    timeout := (given.value? .timeout).bind wholeNumber? }

/-- Understands the words of a command line. -/
def parse (words : List String) : Except Stop Request := do
  let (top, command) ← readTop {} words
  match command with
  | none =>
    let top ← settle top
    .error (.usage (if top.isEmpty then .nothingAsked else .commandMissing))
  | some (verb, rest) =>
    let given ← readCommand verb rest
    let top ← settle top
    let request : Request :=
      { order := orderOf given verb
        configFile := (given.value? .config).or (top.value? .config)
        verbose := given.has .verbose || top.has .verbose
        overrides := overridesOf given }
    return request

end Crosscheck.Options
