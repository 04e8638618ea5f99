import Crosscheck.Shell.Program.Files

/-! # Making directories, files and links -/

namespace Crosscheck.Shell.Make

open Act Files

/-! ## Directories -/

/-- The starts of a path that end with a name. -/
def starts (path : String) : List String :=
  let step (state : List Char × List String) (c : Char) : List Char × List String :=
    let (before, found) := state
    if c == '/' && before.head?.any (· != '/') then
      (c :: before, String.ofList before.reverse :: found)
    else (c :: before, found)
  let (all, found) := path.toList.foldl step ([], [])
  (if all.all (· == '/') then found
    else if all.head? == some '/' then found else String.ofList all.reverse :: found).reverse

/-- Makes one directory. -/
def makeOne (path : String) (mode : Nat → Nat) : Act (Except Fault Unit) := do
  match ← changeDisk fun disk => disk.makeDir (Raw.toText path) with
  | .error fault => return .error fault
  | .ok () =>
    match ← look false path with
    | .ok status =>
      change fun k => k.setMode status.place (mode k.mask)
      return .ok ()
    | .error _ => return .ok ()

def mkdir : Program := fun start => do
  let known : Switches :=
    { letters := "pvZ".toList
      valued := ['m']
      longs := [⟨"parents", 'p'⟩, ⟨"mode", 'm'⟩, ⟨"verbose", 'v'⟩] }
  match ← start.options known with
  | none => return 1
  | some chosen =>
    let wish := (chosen.options.reverse.find? (·.1 == 'm')).map (·.2)
    let steps := wish.map Permission.parse?
    let told (path : String) : Outcome :=
      Outcome.told (chosen.has 'v') (start.name ++ ": created directory " ++ start.quoted path)
    let cannot (path : String) (fault : Fault) : Act Outcome :=
      failed start ("cannot create directory " ++ start.marked path ++ ": " ++ fault.text)
    let usual (mask : Nat) : Nat := Permission.without 0o777 mask
    let mode (mask : Nat) : Nat :=
      match steps with
      | some (some steps) => Permission.change true mask steps 0o777
      | _ => usual mask
    /- Directories on the way are those of everybody, whatever is wished for the last one. -/
    let rec onWay : List String → Act (Outcome × Bool)
      | [] => return ({}, true)
      | path :: rest => do
        let last := rest.isEmpty
        match ← makeOne path (if last then mode else usual) with
        | .ok () =>
          let (outcome, fine) ← onWay rest
          return ((told path).and outcome, fine)
        | .error fault =>
          let there := (← look true path).toOption.any (·.node.isDirectory)
          if there then onWay rest
          else
            let fault := if fault = .taken && !last then Fault.notDirectory else fault
            return (← cannot path fault, false)
    if chosen.operands.isEmpty then start.refuse "missing operand"
    else if steps.any Option.isNone then
      start.say ("invalid mode " ++ start.marked (wish.getD ""))
      return 1
    else
      let outcome ← forEach chosen.operands fun path => do
        if chosen.has 'p' && !path.isEmpty then return (← onWay (starts path)).1
        else
          match ← makeOne path mode with
          | .ok () => return told path
          | .error fault => cannot path fault
      finish start outcome

/-! ## Files -/

def touch : Program := fun start => do
  let known : Switches :=
    { letters := "acfhm".toList
      valued := ['d', 'r', 't']
      longs := [⟨"no-create", 'c'⟩, ⟨"reference", 'r'⟩, ⟨"date", 'd'⟩, ⟨"no-dereference", 'h'⟩] }
  match ← start.options known with
  | none => return 1
  | some chosen =>
    let reference := (chosen.options.reverse.find? (·.1 == 'r')).map (·.2)
    let moment : Except Outcome (Option Moment) ←
      match reference with
      | none => pure (Except.ok none)
      | some path =>
        match ← look true path with
        | .ok status => pure (Except.ok (some status.changed))
        | .error fault => do
          let outcome ← failed start
            ("failed to get attributes of " ++ start.quoted path ++ ": " ++ fault.text)
          pure (Except.error outcome)
    match moment with
    | .error outcome => return outcome.status
    | .ok moment =>
      if chosen.operands.isEmpty then start.refuse "missing file operand"
      else
        forAll chosen.operands fun path => do
          match ← look (!chosen.has 'h') path with
          | .ok status =>
            change fun k => k.setChanged status.place (moment.getD k.clock)
            return 0
          | .error reason =>
            if chosen.has 'c' then return 0
            else
              let opened ← step fun k =>
                k.openPath (Raw.toText path) { writes := true, create := true }
              match opened with
              | .ok _ => return 0
              | .error .isDirectory =>
                start.say ("setting times of " ++ start.quoted path ++ ": " ++ reason.text)
                return 1
              | .error fault =>
                start.say ("cannot touch " ++ start.quoted path ++ ": " ++ fault.text)
                return 1

/-! ## Links -/

/-- Makes a link. -/
def link (start : Start) (chosen : Switches.Chosen) (source target : String) : Act Outcome := do
  let symbolic := chosen.has 's'
  let force := chosen.has 'f'
  let cannot (fault : Fault) : Act Outcome :=
    failed start
      (if symbolic then
        "failed to create symbolic link " ++ start.quoted target
          ++ (if source.isEmpty || fault = .nameTooLong then " -> " ++ start.quoted source else "")
          ++ ": " ++ fault.text
      else
        "failed to create hard link " ++ start.quoted target
          ++ (if fault = .taken then "" else " => " ++ start.quoted source) ++ ": " ++ fault.text)
  let origin : Except Fault (Option Kernel.Status) ←
    if symbolic then pure (Except.ok none) else pure ((← look false source).map some)
  match origin with
  | .error fault => failed start ("failed to access " ++ start.quoted source ++ ": " ++ fault.text)
  | .ok (some ⟨.directory _, _, _, _⟩) =>
    failed start (start.bare source ++ ": hard link not allowed for directory")
  | .ok origin =>
    let there := (← look false target).toOption
    let hindrance ←
      match there with
      | none => pure none
      | some other =>
        if !force then pure none
        else if other.node.isDirectory then
          pure (some (← failed start (start.bare target ++ ": cannot overwrite directory")))
        else
          let named := origin.or (← look true source).toOption
          if named.any (·.place = other.place) then
            pure (some (← failed start
              (start.quoted source ++ " and " ++ start.quoted target ++ " are the same file")))
          else do
            change fun k => k.remove other.place
            pure none
    match hindrance with
    | some outcome => return outcome
    | none =>
      let result ← changeDisk fun disk =>
        match origin with
        | none => disk.makeLink (Raw.toText target) (Raw.toText source)
        | some status => do
          match ← disk.spot (Raw.toText target) with
          | ⟨_, none, _⟩ => .error .taken
          | ⟨dir, some name, _⟩ =>
            if (disk.node? (dir ++ [name])).isSome then .error .taken
            else .ok (disk.set (dir ++ [name]) status.node)
      match result with
      | .ok () =>
        return Outcome.told (chosen.has 'v')
          (start.quoted target ++ (if symbolic then " -> " else " => ") ++ start.quoted source)
      | .error fault => cannot fault

def ln : Program := fun start => do
  let known : Switches :=
    { letters := "bdfFiLnPrsTv".toList
      valued := ['t', 'S']
      longs := [⟨"symbolic", 's'⟩, ⟨"force", 'f'⟩, ⟨"no-dereference", 'n'⟩, ⟨"verbose", 'v'⟩]
        ++ targetLongs }
  match ← start.options known with
  | none => return 1
  | some chosen =>
    let goal ←
      match chosen.operands, chosen.has 't' || chosen.has 'T' with
      | [source], false => pure (some ⟨[source], ".", true⟩)
      | _, _ => goal? start chosen
    match goal with
    | none => return 1
    | some goal =>
      let kept := chosen.has 'n' && (← look false goal.target).toOption.any (!·.node.isDirectory)
      let goal := if kept && goal.sources.length = 1 then { goal with inside := false } else goal
      finish start (← forEach goal.sources fun source => link start chosen source (goal.path source))

end Crosscheck.Shell.Make
