import Crosscheck.Options

/-! # Help texts -/

namespace Crosscheck.Options

def programName : String := "compilisp-harness"

def versionText : String := programName ++ " 0.1.0\n"

/-- One line of help on each command. -/
def about : Verb → String
  | .run => "Build, then run test cases through the full pipeline"
  | .list => "List the programs in the corpus directory"
  | .build => "Build the compiler and runtime only"

def aboutHelp : String := "Print this message or the help of the given subcommand(s)"

def describeSwitch : Switch → String
  | .help => "Print help"
  | .version => "Print version"
  | .verbose => "Log every spawned process"
  | .all => "Run every program found in the corpus directory"
  | .failFast => "Stop at the first case that does not pass"
  | .skipBuild => "Assume the compiler and runtime are already built"

def describeSetting : Setting → String
  | .config => "YAML config file; built-in defaults are used when absent"
  | .filter => "Only run cases whose name contains this substring"
  | .corpusDir => "Directory holding `<name>.scheme` programs"
  | .compiler => "Path of the compiler binary"
  | .runtime => "Path of the runtime archive"
  | .reference => "Reference interpreter program"
  | .linker => "Linker driver program"
  | .timeout => "Per-process timeout in seconds; 0 disables it"

/-! ## Tables -/

/-- Rows of a term and its description, the terms padded to one width. -/
def table (rows : List (String × String)) : String :=
  let width := (rows.map (·.1.length)).foldl max 0
  String.join (rows.map fun (term, text) =>
    "  " ++ term ++ String.ofList (List.replicate (width - term.length + 2) ' ') ++ text ++ "\n")

/-- The placeholder for the value of a setting. -/
def placeholder (setting : Setting) : String :=
  "<" ++ String.ofList (setting.long.toList.map fun c => if c = '-' then '_' else c.toUpper) ++ ">"

def switchRow (switch : Switch) : String × String :=
  let start :=
    match switch.short? with
    | some letter => String.ofList ['-', letter] ++ ", "
    | none => "    "
  (start ++ "--" ++ switch.long, describeSwitch switch)

def settingRow (setting : Setting) : String × String :=
  ("    --" ++ setting.long ++ " " ++ placeholder setting, describeSetting setting)

/-- The options of a level in the order in which help shows them. -/
def optionRows : Level → List (String × String)
  | .top => [settingRow .config, switchRow .verbose, switchRow .help, switchRow .version]
  | .command .run =>
    [switchRow .all, settingRow .filter, switchRow .failFast, settingRow .config,
      switchRow .skipBuild, settingRow .corpusDir, switchRow .verbose, settingRow .compiler,
      settingRow .runtime, settingRow .reference, settingRow .linker, settingRow .timeout,
      switchRow .help]
  | .command _ =>
    [settingRow .corpusDir, settingRow .compiler, settingRow .runtime, settingRow .config,
      settingRow .reference, settingRow .linker, switchRow .verbose, settingRow .timeout,
      switchRow .help]

/-! ## Texts -/

/-- A help text: what the thing is, how it is used, and its tables under their headings. -/
def page (title usage : String) (sections : List (String × List (String × String))) : String :=
  title ++ "\n\nUsage: " ++ programName ++ " " ++ usage ++ "\n"
    ++ String.join (sections.map fun (heading, rows) => "\n" ++ heading ++ ":\n" ++ table rows)

def helpText : Topic → String
  | .program =>
    page "Differential tests: compiled compilisp programs against a reference Scheme interpreter."
      "[OPTIONS] <COMMAND>"
      [("Commands", Verb.all.map (fun verb => (verb.name, about verb)) ++ [("help", aboutHelp)]),
        ("Options", optionRows .top)]
  | .command .run =>
    page (about .run) "run [OPTIONS] [NAMES]..."
      [("Arguments",
          [("[NAMES]...", "Test case names; defaults to the configured case list")]),
        ("Options", optionRows (.command .run))]
  | .command verb =>
    page (about verb) (verb.name ++ " [OPTIONS]") [("Options", optionRows (.command verb))]
  | .help =>
    page aboutHelp "help [COMMAND]..."
      [("Arguments", [("[COMMAND]...", "Print help for the subcommand(s)")])]

end Crosscheck.Options
