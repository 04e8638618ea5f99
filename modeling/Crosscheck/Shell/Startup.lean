import Crosscheck.Shell.Builtin.Table
import Crosscheck.Shell.Evaluator

/-! # Starting programs -/

namespace Crosscheck.Shell

open Act

/-- The variables that a program gets to see. -/
def exported (scope : Scope) : List (String × String) :=
  scope.values.filterMap fun (name, var) =>
    if var.exported then var.value.map fun value => (name, value) else none

/-- Why a program cannot be run. -/
def launchFault (fault : Fault) : String :=
  if fault = .notFound || fault = .notDirectory then "not found" else fault.text

/-! ## A changed environment -/

/-- An environment and the words of a command to run in it. -/
structure EnvironmentWish where
  environment : List (String × String)
  words : List String
  wrong : Option String := none

namespace EnvironmentWish

/-- Divides a text at blanks. -/
def atBlanks (text : String) : List String :=
  (text.toList.foldr
    (fun c (parts : List (List Char)) =>
      match parts with
      | first :: rest => if c == ' ' || c == '\t' then [] :: first :: rest else (c :: first) :: rest
      | [] => [[c]])
    [[]]).filterMap fun part => if part.isEmpty then none else some (String.ofList part)

/-- Takes assignments from the start of arguments. -/
def assigned : List (String × String) → List String → EnvironmentWish
  | environment, [] => ⟨environment, [], none⟩
  | environment, word :: rest =>
    match Builtin.divided word with
    | (name, some value) => assigned (environment.filter (·.1 != name) ++ [(name, value)]) rest
    | (_, none) => ⟨environment, word :: rest, none⟩

/-- Reads arguments. A text that is divided into arguments can hold options again. -/
def parse : Nat → List (String × String) → List String → EnvironmentWish
  | 0, environment, words => ⟨environment, words, none⟩
  | _, environment, [] => ⟨environment, [], none⟩
  | fuel + 1, environment, word :: rest =>
    match word.toList with
    | ['-'] | ['-', 'i'] => parse fuel [] rest
    | ['-', '-'] => assigned environment rest
    | ['-', 'u'] => parse fuel (environment.filter (·.1 != rest.headD "")) rest.tail
    | '-' :: 'S' :: text =>
      if text.isEmpty then parse fuel environment (atBlanks (rest.headD "") ++ rest.tail)
      else parse fuel environment (atBlanks (String.ofList text) ++ rest)
    | '-' :: c :: _ => ⟨environment, [], some ("invalid option -- \x27" ++ String.singleton c ++ "\x27")⟩
    | _ => assigned environment (word :: rest)

end EnvironmentWish

/-! ## The shell as a program -/

/-- The scope of a shell that has just been started. -/
def freshScope (k : Kernel) (start : Start) : Scope :=
  let inherited := start.environment.filterMap fun (name, value) =>
    if isName name.toList then some (name, ({ value := some value, exported := true } : Variable))
    else none
  let isGiven (name : String) : Bool := inherited.any (·.1 == name)
  let default (name value : String) : List (String × Variable) :=
    if isGiven name then [] else [(name, { value := some value })]
  let own (name value : String) : List (String × Variable) :=
    [(name, { value := some value, exported := isGiven name })]
  let disk := k.localDisk
  let isHere (path : String) : Bool :=
    path.startsWith "/" && (disk.locate true (Raw.toText path)).toOption == some disk.cwd
  let believed := (inherited.lookup "PWD").bind (·.value)
  let here := (believed.filter isHere).getD (Builtin.pathOf disk.cwd)
  let parent := (k.entry? k.self).elim 0 (·.parent)
  { name := start.name
    leader := k.self
    line := 0
    here
    values :=
      inherited.filter (fun v => !(["IFS", "OPTIND", "PWD", "PPID"].contains v.1))
        ++ own "IFS" " \t\n" ++ own "OPTIND" "1" ++ own "PPID" (toString parent)
        ++ [("PWD", { value := some here, exported := true })]
        ++ default "PATH" Launch.defaultPath ++ default "PS1" "# " ++ default "PS2" "> "
        ++ default "PS4" "+ " }

/-- Opens a script on a high descriptor. -/
def openScript (path : String) : Act Nat := do
  let index ← Wiring.openFile .input path
  let low ← step fun k =>
    let low := k.freeDescriptor 0
    (low, k.connect low index)
  return (← Wiring.save low).getD low

namespace Evaluator

/-- Runs what a shell is started for: a text, a script or its input. -/
def mainScript (run : Evaluator) (start : Start) : Act Unit := do
  let settings ← Builtin.readOptions true (start.args.length + 1) start.args {}
  let args := settings.args.getD []
  match settings.command, args with
  | true, [] => giveUp "-c requires an argument"
  | true, text :: rest =>
    modifyScope fun s => { s with name := rest.headD s.name, args := rest.tail, line := 1 }
    let _ ← run.text {} text
  | false, file :: rest =>
    if ← hasOption 's' then
      modifyScope fun s => { s with args }
      let _ ← run.input 0
    else
      let descriptor ← openScript file
      modifyScope fun s => { s with name := file, args := rest }
      let _ ← run.input descriptor
  | false, [] =>
    let _ ← run.input 0

/-- The shell as a program. -/
def shell (run : Evaluator) (start : Start) : Act Unit := do
  set (freshScope (← kernel) start)
  let jump ← attempt (run.mainScript start)
  run.leave jump

/-! ## Becoming another program -/

/-- A process that runs another program keeps only its low descriptors and what it ignores. The
program needs a library, which it opens first. -/
def enterProgram (launch : Launch) : Act Unit := do
  let program := ((Path.segments launch.path).getLastD "").take 15
  change fun k => k.updateSelf fun e =>
    { e with
      descriptors := e.descriptors.filter (·.1 < 10), caught := [], noticed := []
      program := program.toString, args := launch.name :: launch.args }
  pause execTime
  if !(← kernel).hasRoom 1 then
    writeText 2 (launch.name ++ ": error while loading shared libraries: libc.so.6: "
      ++ "cannot open shared object file: Error 24\n")
    Act.exit 127

/-- Becomes another program, directly or through programs that change the environment. -/
def become (run : Evaluator) : Nat → Launch → List (String × String) → Act Nat
  | 0, _, _ => hang
  | fuel + 1, launch, environment => do
    enterProgram launch
    let start : Start := ⟨launch.name, launch.args, environment⟩
    match launch.executable with
    | .program program => Act.exit (← program start)
    | .shell =>
      run.shell start
      return 0
    | .environment =>
      let wish := EnvironmentWish.parse (start.args.length + 100) environment start.args
      match wish.wrong, wish.words with
      | some text, _ =>
        start.say text
        start.hint
        Act.exit 125
      | none, [] =>
        let lines := wish.environment.map fun (name, value) => name ++ "=" ++ value ++ "\n"
        writeText 1 (String.join lines)
        Act.exit 0
      | none, name :: args =>
        let path := (wish.environment.lookup "PATH").getD Launch.defaultPath
        match Launch.resolve true (← view) path name args with
        | .ok launch => run.become fuel launch wish.environment
        | .error fault =>
          start.say (start.marked name ++ ": " ++ fault.text)
          if fault = .notFound && name.toList.contains ' ' then
            start.say "use -[v]S to pass options in shebang lines"
          Act.exit (if fault = .notFound then 127 else 126)

/-- Becomes the program of a name, or ends the shell if there is none. -/
def execute (run : Evaluator) (path name : String) (args : List String) : Act Nat := do
  match Launch.resolve true (← view) path name args with
  | .ok launch => run.become 1000 launch (exported (← scope))
  | .error fault =>
    pause execTime
    complain (name ++ ": " ++ launchFault fault)
    let missing := [Fault.notFound, .notDirectory, .tooManyLinks, .nameTooLong].contains fault
    setStatus (if missing then 127 else 126)
    throw .quit

end Evaluator

end Crosscheck.Shell
