import Crosscheck.Shell.Builtin

/-! # Commands about processes and signals -/

namespace Crosscheck.Shell.Builtin

open Act

/-- The number of a signal that is named or numbered; zero stands for the end of the shell. -/
def signal? (least : Nat) (text : String) : Option Nat :=
  let upper := String.ofList (text.toList.map Char.toUpper)
  match Numeral.natural? text with
  | some n => if n < 65 then some n else none
  | none => if upper = "EXIT" && least = 0 then some 0 else Signal.names.lookup upper

/-! ## Jobs -/

/-- The job that a text stands for. -/
def jobOf (text : String) : Act Job := do
  let jobs := (← scope).jobs
  let missing : Act Job := giveUp ("No such job: " ++ text)
  match text.toList with
  | ['%'] | ['%', '%'] | ['%', '+'] =>
    match jobs with
    | job :: _ => return job
    | [] => giveUp "No current job"
  | ['%', '-'] =>
    match jobs with
    | _ :: job :: _ => return job
    | _ => giveUp "No previous job"
  | '%' :: digits =>
    match Numeral.natural? (String.ofList digits) with
    | some n => (jobs.find? (·.number == n)).elim missing pure
    | none => missing
  | _ => missing

def stateText (job : Job) : String :=
  match job.processes.getLast?.bind (·.2) with
  | none => "Running"
  | some state =>
    if !job.isDone then "Running"
    else
      match state with
      | .exited 0 => "Done"
      | .exited code => "Done(" ++ toString code ++ ")"
      | .signaled signal => Signal.describe signal.toNat
      | .timedOut => "Killed"

/-- Fills a text up to a width; at least one blank follows. -/
def padded (width : Nat) (text : String) : String :=
  text ++ String.ofList (List.replicate (max 1 (width - text.length)) ' ')

/-- A job as it is told, with its place in the row. The processes of a pipeline are only counted,
unless they are to be told one by one. -/
def jobLine (long : Bool) (place : Nat) (job : Job) : String :=
  let mark := if place = 0 then "+" else if place = 1 then "-" else " "
  let pids := job.processes.map fun (pid, _) => toString pid ++ " "
  let head := "[" ++ toString job.number ++ "] " ++ mark ++ " "
  let first := padded 33 (head ++ (if long then pids.headD "" else "") ++ stateText job)
  let blanks := String.ofList (List.replicate head.length ' ')
  let others := pids.tail.map fun pid =>
    if long then "\n" ++ padded 35 (blanks ++ pid) else " | "
  first ++ String.join others ++ "\n"

/-- Tells of jobs one by one. One that is over is told of for the last time. -/
def tellJobs (long short : Bool) : List Job → Act (List String)
  | [] => return []
  | job :: rest => do
    let all := (← scope).jobs
    let place := all.findIdx (·.number == job.number)
    if short then
      return (toString ((job.processes.head?.map (·.1)).getD 0) ++ "\n") :: (← tellJobs long short rest)
    else
      if job.isDone then
        modifyScope fun s => { s with jobs := s.jobs.filter (·.number != job.number) }
      return jobLine long place job :: (← tellJobs long short rest)

def jobs (args : List String) : Act Nat := do
  let (letters, words) ← options ['l', 'p'] [] args
  collectAll
  let chosen ← if words.isEmpty then pure (← scope).jobs else words.mapM jobOf
  let lines ← tellJobs (letters.any (·.1 == 'l')) (letters.any (·.1 == 'p')) chosen
  emit 0 (String.join lines).toList

/-- Jobs cannot be brought to the front or the back. -/
def moveJob (args : List String) : Act Nat := do
  let words ← operands args
  let job ← jobOf (words.headD "%")
  let _ : Job := job
  giveUp ("job " ++ words.headD "(null)" ++ " not created under job control")

/-- Waits for jobs: those that are named, or all. Gives the status of the last one named. -/
def wait (args : List String) : Act Nat := do
  match ← operands args with
  | [] =>
    for job in (← scope).jobs do
      match ← waitInterrupted true patience job.number with
      | some _ => pure ()
      | none => return ← interruptedStatus
    return 0
  | words =>
    let mut status := 127
    for word in words do
      let job ←
        if word.startsWith "%" then pure (some (← jobOf word))
        else do
          let pid ← number word
          pure ((← scope).jobs.find? fun job => (job.processes.getLast?.map (·.1)) == some pid)
      match job with
      | none => pure ()
      | some job =>
        match ← waitInterrupted false patience job.number with
        | some n => status := n
        | none => return ← interruptedStatus
    return status

/-! ## Signals -/

/-- Sends a signal to a process, or to all if zero or the whole group is meant. -/
def sendTo (k : Kernel) (signal : Nat) (group : Bool) (pid : Nat) : Bool × Kernel :=
  if pid = 0 || (group && pid = k.root) then
    (true, k.entries.foldl (fun k pid _ => (k.send signal pid).2) k)
  else if group then (false, k)
  else k.send signal pid

/-- Sends a signal to what words stand for. -/
def killAll (signal : Nat) (words : List String) : Act Nat := do
  let mut status := 0
  for word in words do
    let (group, pid) ←
      if word.startsWith "%" then do
        let job ← jobOf word
        pure (true, (job.processes.head?.map (·.1)).getD 0)
      else
        match word.toList with
        | '-' :: digits => pure (true, ← number (String.ofList digits))
        | _ => pure (false, ← number word)
    if !(← step fun k => sendTo k signal group pid) then
      complain "No such process\n"
      status := 1
  return status

def listSignals (words : List String) : Act Nat := do
  match words with
  | [] =>
    let names := (List.range 64).map fun (n : Nat) => Signal.name (n + 1) ++ "\n"
    emit 0 ("0\n" ++ String.join names).toList
  | word :: _ =>
    let n ← number word
    let signal := if 128 < n then n - 128 else n
    if 0 < signal && signal < 65 then emit 0 (Signal.name signal ++ "\n").toList
    else giveUp ("invalid signal number or exit status: " ++ word)

def kill (args : List String) : Act Nat := do
  let usage {α : Type} : Act α :=
    giveUp ("Usage: kill [-s sigspec | -signum | -sigspec] [pid | job]... or\n"
      ++ "kill -l [exitstatus]")
  let send (signal : Nat) (words : List String) : Act Nat :=
    if words.isEmpty then usage else killAll signal words
  match args with
  | [] => usage
  | first :: rest =>
    match first.toList with
    | '-' :: name =>
      match signal? 1 (String.ofList name) with
      | some signal => send signal rest
      | none =>
        let (letters, words) ← options ['l'] ['s'] args
        let mut signal := Signal.term
        let mut named := false
        for (letter, value) in letters do
          if letter == 's' then
            match signal? 1 value with
            | some n =>
              signal := n
              named := true
            | none => giveUp ("invalid signal number or name: " ++ value)
        if letters.any (·.1 == 'l') then
          if named then usage else listSignals words
        else send signal words
    | _ => send Signal.term args

/-- Arranges what a signal does to this process. -/
def arrange (signal : Nat) (action : Option String) : Act Unit :=
  change fun k => k.updateSelf fun e =>
    let others (list : List Nat) : List Nat := list.filter (· != signal)
    match action with
    | none => { e with caught := others e.caught, ignored := others e.ignored }
    | some "" => { e with caught := others e.caught, ignored := signal :: others e.ignored }
    | some _ => { e with caught := signal :: others e.caught, ignored := others e.ignored }

/-- Sets what to do on signals. -/
def setTraps (action : Option String) : List String → Act Nat
  | [] => return 0
  | word :: rest => do
    match signal? 0 word with
    | none =>
      writeText 2 ("trap: " ++ word ++ ": bad trap\n")
      return 1
    | some signal =>
      modifyScope fun s =>
        let others := s.traps.filter (·.1 != signal)
        { s with traps := match action with
            | some action => (signal, action) :: others
            | none => others }
      if signal != 0 then arrange signal action
      setTraps action rest

def trap (args : List String) : Act Nat := do
  match ← operands args with
  | [] =>
    let traps := (← scope).traps.mergeSort fun a b => decide (a.1 ≤ b.1)
    let lines := traps.map fun (signal, action) =>
      "trap -- " ++ quoted action ++ " " ++ (if signal = 0 then "EXIT" else Signal.name signal) ++ "\n"
    emit 0 (String.join lines).toList
  | [word] => setTraps none [word]
  | action :: words => setTraps (if action = "-" then none else some action) words

end Crosscheck.Shell.Builtin
