import Crosscheck.Diagnostic
import Crosscheck.Options.Help
import Crosscheck.Options.Reader
import Crosscheck.Report
import Crosscheck.Run
import Crosscheck.Settings.Reader
import Crosscheck.Text.Occurs

/-! # Reactions to a command line

What the program prints and how it ends, for any runner and disk.
-/

namespace Crosscheck

/-- What a command has printed, and whether all was well. -/
structure Reaction where
  printed : String
  result : Except Error Bool

namespace Selection

/-- The names to choose from: those given, all that are found, or those in the settings. -/
def base (selection : Selection) (settings : Settings) (disk : Disk) :
    Except Error (List String) :=
  if !selection.names.isEmpty then .ok selection.names
  else if selection.all then settings.layout.discover disk
  else .ok settings.cases

/-- Whether a name passes the filter. -/
def admits (selection : Selection) (name : String) : Bool :=
  selection.filter.all fun part => Text.occurs part.toList name.toList

/-- The names that are run. -/
def chosen (selection : Selection) (settings : Settings) (disk : Disk) :
    Except Error (List String) :=
  (selection.base settings disk).map (·.filter selection.admits)

end Selection

section

variable {σ : Type}

/-- The outcomes among the items of a run. -/
def outcomesOf (items : List (Except Error Outcome)) : List Outcome :=
  items.filterMap Except.toOption

/-- The error among the items of a run. -/
def errorOf? (items : List (Except Error Outcome)) : Option Error :=
  items.findSome? fun item =>
    match item with
    | .error error => some error
    | .ok _ => none

/-- The report of the items of a run. After an error there is no summary. -/
def reactionTo (items : List (Except Error Outcome)) : Reaction :=
  let outcomes := outcomesOf items
  let fragments := outcomes.flatMap Report.outcome
  match errorOf? items with
  | some error => ⟨Report.plain fragments, .error error⟩
  | none =>
    let tally := Tally.ofVerdicts (outcomes.map Outcome.verdict)
    ⟨Report.plain (fragments ++ Report.summary tally), .ok (!tally.hasFailures)⟩

/-- Runs cases by name. -/
def runNames (driver : Driver) (runner : Runner σ) (names : List String) (w : World σ) :
    Reaction × World σ :=
  if names.isEmpty then (⟨"No test cases selected.\n", .ok true⟩, w)
  else
    match driver.runAll names w.disk with
    | .error error => (⟨"", .error error⟩, w)
    | .ok run =>
      let (items, w) := driver.drain runner run.pending w
      (reactionTo items, w)

/-- The command `run`. With `skipBuild` the session starts out built. -/
def runSelection (runner : Runner σ) (settings : Settings) (selection : Selection) (machine : σ)
    (disk : Disk) : Reaction × World σ :=
  let gate := if selection.skipBuild then Gate.prebuilt else Gate.ofSettings settings
  let w := World.start machine disk (if selection.skipBuild then .built else .notBuilt)
  match selection.chosen settings disk with
  | .error error => (⟨"", .error error⟩, w)
  | .ok names => runNames (Driver.ofSettings settings gate selection.failFast) runner names w

/-- The command `list`. -/
def listPrograms (settings : Settings) (disk : Disk) : Reaction :=
  match settings.layout.discover disk with
  | .error error => ⟨"", .error error⟩
  | .ok [] => ⟨"  No programs found in " ++ settings.layout.dir ++ ".\n", .ok true⟩
  | .ok names => ⟨String.join (names.map (· ++ "\n")), .ok true⟩

/-- The command `build`. -/
def buildOnly (runner : Runner σ) (settings : Settings) (machine : σ) (disk : Disk) :
    Reaction × World σ :=
  match (Gate.ofSettings settings).ensureBuilt runner (World.start machine disk .notBuilt) with
  | (.error error, w) => (⟨"", .error error⟩, w)
  | (.ok (), w) => (⟨"Build finished\n", .ok true⟩, w)

namespace Request

/-- The settings in force: those of the file, or the defaults, under the overrides. -/
def settings (request : Request) (disk : Disk) : Except Error Settings :=
  let base :=
    match request.configFile with
    | some path => Settings.load disk path
    | none => .ok {}
  base.map request.overrides.apply

def carryOut (runner : Runner σ) (request : Request) (machine : σ) (disk : Disk) :
    Reaction × World σ :=
  let idle := World.start machine disk .notBuilt
  match request.settings disk with
  | .error error => (⟨"", .error error⟩, idle)
  | .ok settings =>
    match request.order with
    | .run selection => runSelection runner settings selection machine disk
    | .list => (listPrograms settings disk, idle)
    | .build => buildOnly runner settings machine disk

end Request

/-! ## Output -/

/-- What the program leaves behind: its exit status and what it wrote. -/
structure Display where
  status : Nat
  stdout : String
  stderr : String
  deriving DecidableEq, Repr

/-- An error as it is shown. What a failed build said comes first. -/
def Error.shown (error : Error) : String :=
  (match error with
    | .build _ _ stderr => stderr ++ "\n"
    | _ => "") ++ error.report ++ "\n"

namespace Display

def ofReaction (reaction : Reaction) : Display :=
  match reaction.result with
  | .ok well => ⟨if well then 0 else 1, reaction.printed, ""⟩
  | .error error => ⟨1, reaction.printed, error.shown⟩

def ofStop : Stop → Display
  | .help topic => ⟨0, Options.helpText topic, ""⟩
  | .version => ⟨0, Options.versionText, ""⟩
  | .usage error => ⟨2, "", error.message ++ "\n"⟩

end Display

/-- The program: it understands its words and carries out what they ask. -/
def respond (runner : Runner σ) (words : List String) (machine : σ) (disk : Disk) :
    Display × Disk :=
  match Options.parse words with
  | .error stop => (Display.ofStop stop, disk)
  | .ok request =>
    let (reaction, w) := request.carryOut runner machine disk
    (Display.ofReaction reaction, w.disk)

end

end Crosscheck
