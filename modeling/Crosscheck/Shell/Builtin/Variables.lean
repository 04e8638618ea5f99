import Crosscheck.Shell.Builtin

/-! # Commands about variables, options and arguments -/

namespace Crosscheck.Shell.Builtin

open Act

/-! ## Options of the shell -/

/-- The names of options and their letters; some have no letter to be told by. -/
def optionNames : List (String × Char) :=
  [("errexit", 'e'), ("noglob", 'f'), ("ignoreeof", 'I'), ("interactive", 'i'), ("monitor", 'm'),
    ("noexec", 'n'), ("stdin", 's'), ("xtrace", 'x'), ("verbose", 'v'), ("vi", 'V'), ("emacs", 'E'),
    ("noclobber", 'C'), ("allexport", 'a'), ("notify", 'b'), ("nounset", 'u'), ("privileged", 'p'),
    ("nolog", '\x01'), ("debug", '\x02')]

def setOption (on : Bool) (letter : Char) : Act Unit := do
  if ' ' < letter && (optionNames.any (·.2 == letter)) then
    modifyScope fun s =>
      let others := s.options.filter (· != letter)
      { s with options := if on then letter :: others else others }
  else giveUp ("Illegal option -" ++ String.singleton letter)

/-- Sets an option by its name, or tells of all if there is none. -/
def namedOption (on : Bool) (isOn : Char → Bool) (name : Option String) : Act Unit := do
  match name with
  | none =>
    let lines := optionNames.map fun (name, letter) =>
      let isSet := isOn letter
      if on then
        name ++ String.ofList (List.replicate (16 - name.length) ' ')
          ++ (if isSet then "on\n" else "off\n")
      else "set " ++ (if isSet then "-o " else "+o ") ++ name ++ "\n"
    writeText 1 ((if on then "Current option settings\n" else "") ++ String.join lines)
  | some name =>
    match optionNames.lookup name with
    | some letter =>
      modifyScope fun s =>
        let others := s.options.filter (· != letter)
        { s with options := if on then letter :: others else others }
    | none => giveUp ("Illegal option -o " ++ name)

/-- What options of a shell ask for besides being set. -/
structure Settings where
  /-- Options that were turned off. At the start all others count as on when they are told of. -/
  cleared : List Char := []
  /-- A command is given as an argument. -/
  command : Bool := false
  /-- Arguments after the options; none if there is nothing that could replace the old ones. -/
  args : Option (List String) := none

/-- Reads the letters of one argument; gives how many of the next arguments were used. -/
def optionLetters (start on : Bool) : List Char → List String → Settings → Act (Settings × List String)
  | [], rest, settings => return (settings, rest)
  | c :: letters, rest, settings => do
    if c == 'c' && start then
      optionLetters start on letters rest { settings with command := true }
    else if c == 'l' && start then optionLetters start on letters rest settings
    else if c == 'o' then
      let set := (← scope).options
      namedOption on (fun c => if start then !settings.cleared.contains c else set.contains c) rest.head?
      let cleared := if on then [] else (rest.head?.bind fun name => optionNames.lookup name).toList
      optionLetters start on letters rest.tail { settings with cleared := cleared ++ settings.cleared }
    else
      setOption on c
      let cleared := if on then settings.cleared.filter (· != c) else c :: settings.cleared
      optionLetters start on letters rest { settings with cleared }

/-- Reads options from arguments, at the start of a shell or later. -/
def readOptions (start : Bool) : Nat → List String → Settings → Act Settings
  | 0, args, settings => return { settings with args := some args }
  | _, [], settings => return { settings with args := if start then some [] else none }
  | fuel + 1, arg :: rest, settings => do
    match arg.toList with
    | ['-'] =>
      if !start then
        modifyScope fun s => { s with options := s.options.filter fun c => c != 'x' && c != 'v' }
      return { settings with args := if start || !rest.isEmpty then some rest else none }
    | ['-', '-'] => return { settings with args := some rest }
    | '-' :: letters =>
      let (settings, rest) ← optionLetters start true letters rest settings
      readOptions start fuel rest settings
    | '+' :: letters =>
      let (settings, rest) ← optionLetters start false letters rest settings
      readOptions start fuel rest settings
    | _ => return { settings with args := some (arg :: rest) }

/-! ## Variables -/

/-- Names and variables in the order of their names. -/
def sortedVariables : Act (List (String × Variable)) := do
  return (← scope).values.mergeSort fun a b => decide (a.1 ≤ b.1)

/-- Tells variables, as commands that would set them again. -/
def tellVariables (start : String) (which : Variable → Bool) : Act Nat := do
  let lines := (← sortedVariables).filterMap fun (name, var) =>
    if which var then
      some (start ++ name ++ (var.value.elim "" fun value => "=" ++ quoted value) ++ "\n")
    else none
  emit 0 (String.join lines).toList

def set (args : List String) : Act Nat := do
  if args.isEmpty then tellVariables "" (·.value.isSome)
  else
    let settings ← readOptions false (args.length + 1) args {}
    match settings.args with
    | some args => modifyScope fun s => { s with args, optionIndex := 1, optionPlace := none }
    | none => pure ()
    return 0

/-- Forgets a variable, whose name ends before an equals sign. -/
def forgetVariable (name : String) : Act Unit := do
  let name := String.ofList (name.toList.takeWhile (· != '='))
  if !isName name.toList then giveUp (name ++ ": bad variable name")
  if isReadonly (← scope) name then giveUp (name ++ ": is read only")
  modifyScope fun s => { s with values := s.values.filter (·.1 != name) }

def unset (args : List String) : Act Nat := do
  let (letters, names) ← options ['v', 'f'] [] args
  for name in names do
    if letters.getLast?.map (·.1) == some 'f' then
      modifyScope fun s => { s with functions := s.functions.filter (·.1 != name) }
    else forgetVariable name
  return 0

/-- The name of a word such as `name=value`, and its value. -/
def divided (word : String) : String × Option String :=
  let name := word.toList.takeWhile (· != '=')
  let rest := word.toList.drop name.length
  (String.ofList name, if rest.isEmpty then none else some (String.ofList rest.tail))

/-- Gives variables a mark, and values if there are any. -/
def mark (verb : String) (marked : Variable → Bool) (addMark : Variable → Variable)
    (args : List String) : Act Nat := do
  let (letters, words) ← options ['p'] [] args
  if !letters.isEmpty || words.isEmpty then tellVariables (verb ++ " ") marked
  else
    for word in words do
      let (name, value) := divided word
      match value with
      | some value => assignVariable name value
      | none => if !isName name.toList then giveUp (name ++ ": bad variable name")
      putVariable name (addMark (((← scope).values.lookup name).getD ⟨none, false, false⟩))
    return 0

def exportNames : List String → Act Nat :=
  mark "export" (·.exported) fun var => { var with exported := true }

def readonlyNames : List String → Act Nat :=
  mark "readonly" (·.readonly) fun var => { var with readonly := true }

/-! ## Variables of functions -/

/-- Remembers what a variable was; a dash stands for the options of the shell. -/
def remember (name : String) : Act Unit :=
  modifyScope fun s =>
    let old : Option Variable :=
      if name = "-" then some { value := some (String.ofList s.options) } else s.values.lookup name
    match s.locals with
    | frame :: rest => { s with locals := ((name, old) :: frame) :: rest }
    | [] => s

/-- Makes a variable local, with a value if there is one. Only without a value its name is looked
at. -/
def makeLocal (word : String) : Act Unit := do
  let (name, value) := divided word
  if value.isNone && name != "-" && !isName name.toList then
    giveUp (name ++ ": bad variable name")
  remember name
  match value with
  | some value =>
    if isName name.toList then assignVariable name value
    else putVariable name { value := some value }
  | none => pure ()

def localNames (args : List String) : Act Nat := do
  let names ← operands args
  if (← scope).locals.isEmpty then giveUp "not in a function"
  for name in names do makeLocal name
  return 0

/-- Gives the variables of the innermost frame back what they were. One that was not there before
cannot be taken away again if its name is wrong. -/
def restoreLocals : Act Unit := do
  let wrong := ((← scope).locals.headD []).find? fun (name, old) =>
    old.isNone && !isName name.toList
  modifyScope fun s =>
    match s.locals with
    | [] => s
    | frame :: rest =>
      let restored := frame.foldl
        (fun (s : Scope) (name, old) =>
          if name = "-" then { s with options := (old.bind (·.value)).elim [] String.toList }
          else
            let others := s.values.filter (·.1 != name)
            { s with
              values := match old with
                | some var => (name, var) :: others
                | none => others
              hashed := if name = "PATH" then [] else s.hashed })
        s
      { restored with locals := rest }
  match wrong with
  | some (name, _) => giveUp (name ++ ": bad variable name")
  | none => pure ()

/-! ## Arguments -/

def shift (args : List String) : Act Nat := do
  let count ← args.head?.elim (pure 1) number
  if (← scope).args.length < count then giveUp "can't shift that many"
  modifyScope fun s =>
    { s with args := s.args.drop count, optionIndex := 1, optionPlace := none }
  return 0

/-- How `getopts` goes on. -/
structure Search where
  letter : Char
  /-- The value of the option; none if there is none to be set. -/
  value : Option String
  complaint : Option String := none
  index : Nat
  place : Option Nat
  done : Bool := false

/-- Whether a letter is an option, and whether it needs a value. -/
def known (letter : Char) : List Char → Option Bool
  | [] => none
  | c :: ':' :: rest => if c == letter then some true else known letter rest
  | c :: rest => if c == letter then some false else known letter rest

/-- Looks for the next option among words. -/
def search (spec : List Char) (words : List String) (index : Nat) (place : Option Nat) : Search :=
  let current := (if index ≤ 1 then none else words[index - 2]?).map String.toList
  let pending : Option (List Char) :=
    match current, place with
    | some word, some place => if word.length < place then none else some (word.drop place)
    | _, _ => none
  let atEnd (index : Nat) : Search := ⟨'?', none, none, index, none, true⟩
  let started : Except Search (List Char × Nat) :=
    match pending with
    | some (c :: rest) => .ok (c :: rest, index)
    | _ =>
      match words[index - 1]?.map String.toList with
      | some ['-', '-'] => .error (atEnd (index + 1))
      | some ('-' :: c :: rest) => .ok (c :: rest, index + 1)
      | _ => .error (atEnd index)
  match started with
  | .error result => result
  | .ok ([], index) => atEnd index
  | .ok (c :: rest, index) =>
    let length := ((words[index - 2]?).map String.length).getD 0
    let here := some (length - rest.length)
    let silent := spec.head? == some ':'
    match known c spec with
    | none =>
      if silent then ⟨'?', some (String.singleton c), none, index, here, false⟩
      else
        ⟨'?', none, some ("Illegal option -" ++ String.singleton c), index, here, false⟩
    | some false => ⟨c, some "", none, index, here, false⟩
    | some true =>
      if !rest.isEmpty then ⟨c, some (String.ofList rest), none, index, none, false⟩
      else
        match words[index - 1]? with
        | some value => ⟨c, some value, none, index + 1, none, false⟩
        | none =>
          if silent then ⟨':', some (String.singleton c), none, index, none, false⟩
          else
            ⟨'?', none, some ("No arg for -" ++ String.singleton c ++ " option"), index, none, false⟩

def getopts (args : List String) : Act Nat := do
  match ← operands args with
  | spec :: name :: words =>
    let scope ← scope
    let words := if words.isEmpty then scope.args else words
    let fresh := scope.optionIndex = 0 || words.length + 1 < scope.optionIndex
    modifyScope fun s => { s with optionIndex := 0 }
    let index := if fresh then 1 else scope.optionIndex
    let place := if fresh then none else scope.optionPlace
    let found := search spec.toList words index place
    match found.complaint with
    | some text => writeText 2 (text ++ "\n")
    | none => pure ()
    match found.value with
    | some value => assignVariable "OPTARG" value
    | none => if !found.done then forgetVariable "OPTARG"
    let old := (scope.values.lookup "OPTIND").getD ⟨none, false, false⟩
    putVariable "OPTIND" { old with value := some (toString found.index) }
    assignVariable name (String.singleton found.letter)
    modifyScope fun s => { s with optionIndex := found.index, optionPlace := found.place }
    return if found.done then 1 else 0
  | _ => giveUp "Usage: getopts optstring var [arg...]"

/-! ## Reading lines -/

/-- Adds a character to spans, of which the latest comes first, and in each the latest character. -/
def pushPlain (spans : List Span) (c : Char) : List Span :=
  match spans with
  | ⟨.atSeparators, glyphs⟩ :: rest => ⟨.atSeparators, .char c false :: glyphs⟩ :: rest
  | _ => ⟨.atSeparators, [.char c false]⟩ :: spans

/-- Reads a line byte by byte. A backslash takes away the meaning of what follows it, unless it is to
be taken as it is; after an end of line that does not count, blanks are looked at anew. Gives the
spans, the latest first, and whether the line was ended. -/
def readLine (literal : Bool) : Nat → Bool → List Span → Act (List Span × Bool)
  | 0, _, spans => return (spans, false)
  | fuel + 1, escaped, spans => do
    match ← readByte with
    | none => return (spans, false)
    | some '\x00' => readLine literal fuel escaped spans
    | some c =>
      if escaped then
        let span : Span := if c == '\n' then ⟨.atSeparators, []⟩ else ⟨.whole, [.char c true]⟩
        readLine literal fuel false (span :: spans)
      else if c == '\\' && !literal then readLine literal fuel true spans
      else if c == '\n' then return (spans, true)
      else readLine literal fuel false (pushPlain spans c)
where
  readByte : Act (Option Char) := do
    match ← read 0 1 with
    | .bytes bytes => return (Raw.ofBytes bytes).head?
    | _ => return none

def readVariables (args : List String) : Act Nat := do
  let (letters, names) ← options ['r'] ['p'] args
  if names.isEmpty then giveUp "arg count"
  let (spans, ended) ← readLine (letters.any (·.1 == 'r')) patience false []
  let spans := (spans.map fun span => { span with glyphs := span.glyphs.reverse }).reverse
  let separators := separatorsOf (← scope)
  let fields := splitFields separators (some names.length) spans
  for (name, n) in names.zipIdx do
    assignVariable name ((fields[n]?).elim "" fun field => String.ofList (plainText field))
  return if ended then 0 else 1

end Crosscheck.Shell.Builtin
