import Crosscheck.Shell.Program.Files

/-! # Changing permissions -/

namespace Crosscheck.Shell.Chmod

open Act Files

/-- How much is told. -/
inductive Report where
  | nothing
  | changes
  | everything
  deriving DecidableEq

structure Plan where
  steps : List Permission.Step
  /-- The change was given like an option, which the mask may make a surprise. -/
  dashed : Bool
  force : Bool
  recursive : Bool
  report : Report

/-- Letters that an option can be made of, and those that make it a change of permissions. -/
def isLetter (c : Char) : Bool := "Rcfv".toList.contains c

def isChange (c : Char) : Bool := "rwxXstugoa,+=01234567".toList.contains c

/-- Tells changes that are given like options from other arguments, up to the end of options. -/
def separate : List String → List String × List String
  | [] => ([], [])
  | "--" :: rest => ([], "--" :: rest)
  | arg :: rest =>
    let (changes, others) := separate rest
    match arg.toList with
    | '-' :: body =>
      let options := body.takeWhile isLetter
      if (body.drop options.length).head?.any isChange then
        (arg :: changes, (if options.isEmpty then others else String.ofList ('-' :: options) :: others))
      else (changes, arg :: others)
    | _ => (changes, arg :: others)

/-- Permissions in digits and letters. -/
def shown (bits : Nat) : String :=
  Permission.digits bits ++ " (" ++ Permission.letters bits ++ ")"

/-- Changes the permissions of something, and of what is below it. -/
def apply (start : Start) (plan : Plan) : Nat → Bool → String → Act Outcome
  | 0, _, _ => hang
  | fuel + 1, operand, path => do
    let all := plan.report = .everything
    match ← look operand path with
    | .error fault =>
      let text :=
        if fault = .notFound && (← look false path).toOption.isSome then
          "cannot operate on dangling symlink " ++ start.quoted path
        else "cannot access " ++ start.quoted path ++ ": " ++ fault.text
      if !plan.force then start.say text
      return { Outcome.told all (start.quoted path ++ " could not be accessed") with status := 1 }
    | .ok ⟨.link _, _, _, _⟩ =>
      return Outcome.told all
        ("neither symbolic link " ++ start.quoted path ++ " nor referent has been changed")
    | .ok status =>
      let directory := status.node.isDirectory
      let mask := (← kernel).mask
      let mode := Permission.change directory mask plan.steps status.mode
      change fun k => k.setMode status.place mode
      let told :=
        if mode = status.mode then
          Outcome.told all ("mode of " ++ start.quoted path ++ " retained as " ++ shown mode)
        else
          Outcome.told (plan.report != .nothing)
            ("mode of " ++ start.quoted path ++ " changed from " ++ shown status.mode ++ " to "
              ++ shown mode)
      let naive := Permission.change directory 0 plan.steps status.mode
      let surprise ←
        if plan.dashed && mode != naive && Permission.without mode naive != 0 then
          failed start (start.bare path ++ ": new permissions are " ++ Permission.letters mode
            ++ ", not " ++ Permission.letters naive)
        else pure {}
      let inner ←
        if plan.recursive && directory then
          let names := ((← view).children status.place).map (·.1) |>.mergeSort
          forEach names fun name => apply start plan fuel false (below path (Raw.ofText name))
        else pure {}
      return told.and (surprise.and inner)

def run : Program := fun start => do
  let known : Switches :=
    { letters := "Rcfv".toList
      longs := [⟨"changes", 'c'⟩, ⟨"recursive", 'R'⟩, ⟨"silent", 'f'⟩, ⟨"quiet", 'f'⟩, ⟨"verbose", 'v'⟩] }
  let (changes, args) := separate start.args
  match ← ({ start with args } : Start).options known with
  | none => return 1
  | some chosen =>
    let dashed := !changes.isEmpty
    let (text, paths) :=
      if dashed then (",".intercalate changes, chosen.operands)
      else (chosen.operands.headD "", chosen.operands.tail)
    if paths.isEmpty then
      start.refuse ("missing operand"
        ++ if dashed || chosen.operands.isEmpty then "" else " after " ++ start.marked text)
    else
      match Permission.parse? text with
      | none => start.refuse ("invalid mode: " ++ start.marked text)
      | some steps =>
        let last := (chosen.options.reverse.find? fun o => "cv".toList.contains o.1).map (·.1)
        let plan : Plan :=
          { steps
            dashed
            force := chosen.has 'f'
            recursive := chosen.has 'R'
            report := if last == some 'v' then .everything
              else if last == some 'c' then .changes else .nothing }
        finish start (← forEach paths (apply start plan 1000 true))

end Crosscheck.Shell.Chmod
