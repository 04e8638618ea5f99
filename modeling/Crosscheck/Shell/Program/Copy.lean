import Crosscheck.Shell.Program.Files

/-! # Copying and moving

A file that is there already is overwritten, unless it is to be kept or the user wants to keep it. A
directory is copied with everything in it. Links are followed, except in a copied directory.
-/

namespace Crosscheck.Shell.Copy

open Act Files

/-- Which links are followed. -/
inductive Follow where
  | all
  | operands
  | none
  deriving DecidableEq

/-- What is done about files that are there. -/
inductive Conflict where
  | replace
  | ask
  | keep
  deriving DecidableEq

/-- How to copy or move. -/
structure Plan where
  recursive : Bool
  follow : Follow
  conflict : Conflict
  update : Bool
  preserve : Bool
  /-- Links are made in place of copies. -/
  linking : Bool
  verbose : Bool

def switches : Switches where
  letters := "abdfHilLnprRsTuvxPZ".toList
  valued := ['t', 'S']
  longs :=
    [⟨"archive", 'a'⟩, ⟨"dereference", 'L'⟩, ⟨"force", 'f'⟩, ⟨"interactive", 'i'⟩, ⟨"no-clobber", 'n'⟩,
      ⟨"no-dereference", 'P'⟩, ⟨"recursive", 'R'⟩, ⟨"verbose", 'v'⟩] ++ targetLongs

/-- The last of some letters decides what is done about files that are there. -/
def conflictOf (letters : List Char) (chosen : Switches.Chosen) : Conflict :=
  match (chosen.options.reverse.find? fun o => letters.contains o.1).map (·.1) with
  | some 'i' => .ask
  | some 'n' => .keep
  | _ => .replace

def planOf (letters : List Char) (chosen : Switches.Chosen) : Plan :=
  let recursive := ['r', 'R', 'a'].any chosen.has
  let follow :=
    match (chosen.options.reverse.find? fun o => "adHLP".toList.contains o.1).map (·.1) with
    | some 'L' => Follow.all
    | some 'H' => .operands
    | some _ => .none
    | none => if recursive then .none else .all
  { recursive
    follow
    conflict := conflictOf letters chosen
    update := chosen.has 'u'
    preserve := chosen.has 'p' || chosen.has 'a'
    linking := chosen.has 's'
    verbose := chosen.has 'v' }

/-! ## Contents -/

/-- Copies all there is to read; gives which side is to blame for a failure, and the reason. -/
def pour (source target : Nat) : Nat → Act (Option (Bool × String))
  | 0 => hang
  | fuel + 1 => do
    match ← read source 131072 with
    | .bytes bytes =>
      match ← write target bytes with
      | none => pour source target fuel
      | some reason => return some (true, reason)
    | .blocked => pour source target fuel
    | .ended => return none
    | .unreadable reason => return some (false, reason)

/-- Opens a path for writing on a descriptor of its own. -/
def openOutput (path : String) (create : Bool) : Act (Except Fault Nat) :=
  step fun k =>
    match k.openPath (Raw.toText path) { writes := true, truncate := true, create } with
    | (.ok index, k) =>
      let descriptor := k.freeDescriptor 0
      (.ok descriptor, k.connect descriptor index)
    | (.error fault, k) => (.error fault, k)

/-- Copies what a file holds. -/
def copyContent (start : Start) (plan : Plan) (status : Kernel.Status) (source target : String)
    (new : Bool) : Act Outcome := do
  match ← openInput source with
  | .error fault => failed start ("cannot open " ++ start.quoted source ++ " for reading: " ++ fault.text)
  | .ok input =>
    let outcome ← do
      if new && (← look false target).toOption.isSome then
        failed start ("not writing through dangling symlink " ++ start.quoted target)
      else
        match ← openOutput target new with
        | .error fault =>
          let fault := if fault = .isDirectory && new then Fault.notDirectory else fault
          failed start ("cannot create regular file " ++ start.quoted target ++ ": " ++ fault.text)
        | .ok output =>
          let failure ← pour input output patience
          closeInput output
          match failure with
          | none => pure ({} : Outcome)
          | some (true, reason) => failed start ("error writing " ++ start.quoted target ++ ": " ++ reason)
          | some (false, reason) => failed start ("error reading " ++ start.quoted source ++ ": " ++ reason)
    closeInput input
    if outcome.status = 0 && (new || plan.preserve) then
      match ← look true target with
      | .ok made =>
        change fun k =>
          let mode := if plan.preserve then status.mode
            else Permission.without (Nat.land status.mode 0o777) k.mask
          k.setMode made.place mode
      | .error _ => pure ()
    return outcome

/-- Gives a copy the time of its source, if that is wanted. -/
def preserveTime (plan : Plan) (status : Kernel.Status) (target : String) : Act Unit := do
  if plan.preserve then
    match ← look false target with
    | .ok made => change fun k => k.setChanged made.place status.changed
    | .error _ => pure ()

/-! ## What is there already -/

/-- Whether something may take the place of what is there: the outcome if it may not. -/
def conflict (start : Start) (plan : Plan) (moving : Bool) (made : List Location)
    (status other : Kernel.Status) (source target : String) : Act (Option Outcome) := do
  let refuse (text : String) : Act (Option Outcome) := return some (← failed start text)
  let directory := status.node.isDirectory
  let asks := moving || !directory
  if plan.conflict != .keep && status.place = other.place then
    refuse (start.quoted source ++ " and " ++ start.quoted target ++ " are the same file")
  else if plan.update && !directory && status.changed ≤ other.changed then return some {}
  else if asks && plan.conflict = .keep then
    if moving then refuse ("not replacing " ++ start.quoted target) else return some {}
  else
    let wanted ← if asks && plan.conflict = .ask then
        agrees start ("overwrite " ++ start.quoted target ++ "?") else pure true
    if !wanted then return some { status := 1 }
    else if !other.node.isDirectory && directory then
      refuse ("cannot overwrite non-directory " ++ start.quoted target ++ " with directory "
        ++ start.quoted source)
    else if !other.node.isDirectory && made.contains other.place then
      refuse ("will not overwrite just-created " ++ start.quoted target ++ " with "
        ++ start.quoted source)
    else if other.node.isDirectory && !directory then
      refuse ("cannot overwrite directory " ++ start.quoted target ++ " with non-directory")
    else return none

/-- What is there already at a target, or what keeps anybody from knowing. -/
def present (follow : Bool) (target : String) : Act (Except Fault (Option Kernel.Status)) := do
  match ← look follow target with
  | .ok status => return .ok (some status)
  | .error .notFound => return .ok none
  | .error fault => return .error fault

/-! ## Copying -/

/-- Copies something, and what is below it. -/
def copy (start : Start) (plan : Plan) (made : List Location) :
    Nat → Bool → String → String → Act Outcome
  | 0, _, _, _ => hang
  | fuel + 1, operand, source, target => do
    let follow := plan.follow = .all || (operand && plan.follow = .operands)
    match ← look follow source with
    | .error fault => failed start ("cannot stat " ++ start.quoted source ++ ": " ++ fault.text)
    | .ok status =>
      let content :=
        match status.node with
        | .file .. => true
        | .device _ | .stream _ => !plan.recursive
        | _ => false
      if status.node.isDirectory && !plan.recursive then
        failed start ("-r not specified; omitting directory " ++ start.quoted source)
      else
        match ← present content target with
        | .error fault => failed start ("cannot stat " ++ start.quoted target ++ ": " ++ fault.text)
        | .ok there =>
          let hindrance ←
            match there with
            | none => pure none
            | some other => conflict start plan false made status other source target
          match hindrance with
          | some outcome => return outcome
          | none =>
            let told := Outcome.told plan.verbose (start.quoted source ++ " -> " ++ start.quoted target)
            let outcome ←
              match status.node with
              | .directory _ => copyDirectory fuel status there.isNone source target told
              | .link path => linkTo there.isSome source target path told
              | _ =>
                if plan.linking then
                  if Path.isAbsolute source || !target.toList.contains '/' then
                    linkTo there.isSome source target (Raw.toText source) told
                  else
                    failed start (start.bare target
                      ++ ": can make relative symbolic links only in current directory")
                else if content then
                  pure (told.and (← copyContent start plan status source target there.isNone))
                else do
                  match (← disk).locate false (Raw.toText target) with
                  | .ok place =>
                    change fun k => k.setDisk (k.disk.set place status.node) [place, place.dropLast]
                    pure told
                  | .error fault =>
                    failed start
                      ("cannot create special file " ++ start.quoted target ++ ": " ++ fault.text)
            if outcome.status = 0 then preserveTime plan status target
            return outcome
where
  /-- Makes a link in place of what is there. -/
  linkTo (there : Bool) (source target path : String) (told : Outcome) : Act Outcome := do
    let removed := Outcome.told (plan.verbose && there) ("removed " ++ start.quoted target)
    let result ← changeDisk fun disk =>
      (if there && !plan.linking then (disk.unlink (Raw.toText target)).toOption.getD disk
        else disk).makeLink (Raw.toText target) path
    match result with
    | .ok () => return removed.and told
    | .error fault =>
      failed start ("cannot create symbolic link " ++ start.quoted target
        ++ (if plan.linking then " to " ++ start.quoted source else "") ++ ": " ++ fault.text)
  /-- Copies a directory. What is being made does not count as part of it. -/
  copyDirectory (fuel : Nat) (status : Kernel.Status) (new : Bool) (source target : String)
      (told : Outcome) : Act Outcome := do
    let names := ((← view).children status.place).map (·.1)
    let made ← if new then changeDisk fun disk => disk.makeDir (Raw.toText target)
      else pure (.ok ())
    match made with
    | .error fault =>
      failed start ("cannot create directory " ++ start.quoted target ++ ": " ++ fault.text)
    | .ok () =>
      match ← look true target with
      | .error _ => return told
      | .ok there =>
        if new then
          change fun k =>
            k.setMode there.place (if plan.preserve then status.mode
              else Permission.without (Nat.land status.mode 0o777) k.mask)
        let names := (names.filter fun name => status.place ++ [name] != there.place)
          |>.mergeSort
        let inner ← forEach names fun name =>
          copy start plan [] fuel false (below source (Raw.ofText name)) (below target (Raw.ofText name))
        let all := (if new then told else {}).and inner
        if status.place.isPrefixOf there.place then
          return all.and (← failed start ("cannot copy a directory, " ++ start.quoted source
            ++ ", into itself, " ++ start.quoted target))
        else return all

/-- Carries operands to their goal, one after another. A source is not taken twice. -/
def carry (start : Start) (goal : Goal) (follow : Bool)
    (action : List Location → String → String → Act Outcome) : Act Outcome := do
  let step (state : Outcome × List Location × List Location) (source : String) :
      Act (Outcome × List Location × List Location) := do
    let (outcome, seen, made) := state
    let target := goal.path source
    let place := (← look follow source).toOption.filter (!·.node.isDirectory)
    if place.any fun status => seen.contains status.place then
      start.say ("warning: source file " ++ start.quoted source ++ " specified more than once")
      return state
    else
      let result ← action made source target
      let there := (← look false target).toOption
      return (outcome.and result, (place.map (·.place)).toList ++ seen,
        if result.status = 0 then (there.map (·.place)).toList ++ made else made)
  return (← goal.sources.foldlM step (({}, [], []) : Outcome × List Location × List Location)).1

def cp : Program := fun start => do
  match ← start.options switches with
  | none => return 1
  | some chosen =>
    let plan := planOf ['i', 'n'] chosen
    if chosen.has 'n' then
      start.say ("warning: behavior of -n is non-portable and may change in future; "
        ++ "use --update=none instead")
    match ← goal? start chosen with
    | none => return 1
    | some goal => finish start (← carry start goal true fun made => copy start plan made 1000 true)

/-! ## Moving -/

/-- Moves something. -/
def move (start : Start) (plan : Plan) (made : List Location) (source target : String) :
    Act Outcome := do
  match ← look false source with
  | .error fault => failed start ("cannot stat " ++ start.quoted source ++ ": " ++ fault.text)
  | .ok status =>
    match ← present false target with
    | .error fault => failed start ("cannot stat " ++ start.quoted target ++ ": " ++ fault.text)
    | .ok there =>
      let hindrance ←
        match there with
        | none => pure none
        | some other => conflict start plan true made status other source target
      match hindrance with
      | some outcome => return outcome
      | none =>
        let disk ← disk
        let directory := status.node.isDirectory
        match disk.spot (Raw.toText target) with
        | .error fault => cannot fault
        | .ok ⟨_, none, _⟩ => cannot .isDirectory
        | .ok ⟨dir, some name, slash⟩ =>
          if slash && !directory then cannot .notDirectory
          else
            let place := dir ++ [name]
            if directory && status.place.isPrefixOf place then
              failed start ("cannot move " ++ start.quoted source ++ " to a subdirectory of itself, "
                ++ start.quoted target)
            else if there.isSome && directory && !(disk.children place).isEmpty then
              failed start ("cannot overwrite " ++ start.quoted target ++ ": Directory not empty")
            else
              change fun k => k.move status.place place
              return Outcome.told plan.verbose
                ("renamed " ++ start.quoted source ++ " -> " ++ start.quoted target)
where
  cannot (fault : Fault) : Act Outcome :=
    failed start ("cannot move " ++ start.quoted source ++ " to " ++ start.quoted target ++ ": "
      ++ fault.text)

def mv : Program := fun start => do
  let known : Switches :=
    { letters := "bfinuvTZ".toList
      valued := ['t', 'S']
      longs := [⟨"force", 'f'⟩, ⟨"interactive", 'i'⟩, ⟨"no-clobber", 'n'⟩, ⟨"verbose", 'v'⟩]
        ++ targetLongs }
  match ← start.options known with
  | none => return 1
  | some chosen =>
    match ← goal? start chosen with
    | none => return 1
    | some goal => finish start (← carry start goal false (move start (planOf ['f', 'i', 'n'] chosen)))

end Crosscheck.Shell.Copy
