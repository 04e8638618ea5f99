import Crosscheck.Shell.Program

/-! # Waiting for processes -/

namespace Crosscheck.Shell

open Act

def statusOf : ExitState → Nat
  | .exited code => code.toNat
  | .signaled signal => 128 + signal.toNat
  | .timedOut => 137

/-- How a process ended; nothing as long as it has not. -/
def endOf? (k : Kernel) (pid : Nat) : Option ExitState :=
  match k.entry? pid with
  | some e => e.ended
  | none => some (.exited 127)

namespace Job

/-- The status of the last process, once all have ended. -/
def status? (job : Job) : Option Nat :=
  if job.processes.all (·.2.isSome) then
    (job.processes.getLast?.bind (·.2)).map statusOf
  else none

def isDone (job : Job) : Bool := job.processes.all (·.2.isSome)

end Job

/-- Takes note of processes that have ended, and lets the kernel forget them. -/
def collect (job : Job) : Act (Job × List ExitState) := do
  let k ← kernel
  let ended := job.processes.filterMap fun (pid, state) =>
    if state.isSome then none else (endOf? k pid).map fun state => (pid, state)
  if !ended.isEmpty then
    change fun k => ended.foldl (fun k (pid, _) => k.forget pid) k
  let processes := job.processes.map fun (pid, state) =>
    (pid, match state with
      | some state => some state
      | none => ended.lookup pid)
  return ({ job with processes }, ended.map Prod.snd)

/-- Says that signals have killed processes; some kinds go without saying. -/
def announce (states : List ExitState) : Act Unit := do
  for state in states do
    match state with
    | .signaled signal =>
      let signal := signal.toNat
      if signal != Signal.int && signal != Signal.pipe then
        writeText 2 (Signal.describe signal ++ "\n")
    | _ => pure ()

/-- Whether a process of a job has ended that was not known to. -/
def hasNews (job : Job) (k : Kernel) : Bool :=
  job.processes.any fun (pid, state) => state.isNone && (endOf? k pid).isSome

/-- Waits until all processes of a job have ended, whatever signals come in between. -/
def waitForJob : Nat → Job → Act Nat
  | 0, _ => hang
  | fuel + 1, job => do
    let (job, states) ← collect job
    announce states
    match job.status? with
    | some status => return status
    | none =>
      await (hasNews job) none
      waitForJob fuel job

/-- Takes note of all background processes that have ended. -/
def collectAll : Act Unit := do
  let jobs ← (← scope).jobs.mapM fun job => return (← collect job).1
  modifyScope fun s => { s with jobs }

/-- The first number that no job has, or only one that is over and has been waited for. -/
def freeNumber (jobs : List Job) : Nat :=
  let isFree (number : Nat) : Bool :=
    (jobs.find? (·.number == number)).all fun job => job.isDone && job.waited
  ((List.range (jobs.length + 1)).map (· + 1)).find? isFree |>.getD 1

/-- Takes a number for a new job, which an old one may have to give up. -/
def claimNumber : Act Nat := do
  collectAll
  let number := freeNumber (← scope).jobs
  modifyScope fun s => { s with jobs := s.jobs.filter (·.number != number) }
  return number

/-- Adds a job in the background. -/
def addJob (pids : List Nat) : Act Unit := do
  let job : Job := { number := ← claimNumber, processes := pids.map fun pid => (pid, none) }
  modifyScope fun s => { s with jobs := job :: s.jobs, lastJob := pids.getLast? }

def replaceJob (job : Job) : Act Unit :=
  modifyScope fun s =>
    { s with jobs := s.jobs.map fun other => if other.number = job.number then job else other }

/-- Waits for a job in the background. Gives nothing if a caught signal comes first. -/
def waitInterrupted (quiet : Bool) : Nat → Nat → Act (Option Nat)
  | 0, _ => hang
  | fuel + 1, number => do
    match (← scope).jobs.find? (·.number == number) with
    | none => return some 127
    | some job =>
      let (job, states) ← collect job
      if !quiet then announce states
      replaceJob job
      match job.status? with
      | some status =>
        replaceJob { job with waited := true }
        return some status
      | none =>
        if ← interrupted then return none
        else
          await (hasNews job) none
          waitInterrupted quiet fuel number

/-- The status after a wait that a signal has cut short. -/
def interruptedStatus : Act Nat := do
  let k ← kernel
  let noticed := (k.entry? k.self).elim [] (·.noticed)
  return 128 + (noticed.min?.getD 0)

end Crosscheck.Shell
