import Crosscheck.Shell.Kernel
import Crosscheck.Shell.Script

/-! # Programs in progress

A program acts on its own state and, step by step, on the kernel. It is written with what is to
happen after it, so that between two steps other processes can have their turn.
-/

namespace Crosscheck.Shell

structure Variable where
  /-- A variable can have marks without being set. -/
  value : Option String
  exported : Bool := false
  readonly : Bool := false
  deriving Inhabited

/-- What the rest of a command is passed over for. -/
inductive Skip where
  | none
  /-- Loops are left. -/
  | leave
  /-- A loop goes on with its next round. -/
  | again
  /-- A function or script returns. -/
  | finish
  /-- A function or script returns with the status there was. -/
  | finishAsIs
  deriving DecidableEq, Repr

/-- Processes that were started together, and how they ended. -/
structure Job where
  number : Nat
  processes : List (Nat × Option ExitState)
  /-- Somebody has waited for it. -/
  waited : Bool := false

/-- What belongs to one shell. -/
structure Scope where
  /-- What the shell calls itself. -/
  name : String
  /-- The process that commands know as this shell; a subshell keeps that of its parent. -/
  leader : Nat
  args : List String := []
  values : List (String × Variable) := []
  functions : List (String × Nat × Command) := []
  aliases : List (String × String) := []
  /-- Where programs have been found. -/
  hashed : List (String × String) := []
  documents : Array Word := #[]
  /-- For each function or command with variables of its own: what they were before. -/
  locals : List (List (String × Option Variable)) := []
  options : List Char := []
  /-- The line of the present command, and the command of the shell that is being carried out. -/
  line : Nat := 1
  commandName : Option String := none
  /-- The lines that readers have come to, of texts that are being carried out inside each other. The
  innermost is first, and what the shell itself was given to read is last. -/
  reached : List Nat := [1]
  /-- The status of the last command. -/
  status : Nat := 0
  /-- The status of the last command that was substituted into the present one. -/
  substituted : Nat := 0
  /-- The status to end with, if it has been settled. -/
  final : Option Nat := none
  loops : Nat := 0
  /-- How many functions are being carried out inside each other. -/
  calls : Nat := 0
  skip : Skip := .none
  skipCount : Nat := 0
  /-- What to do on signals; under zero, at the end. -/
  traps : List (Nat × String) := []
  /-- The latest first. -/
  jobs : List Job := []
  lastJob : Option Nat := none
  /-- A trace is being written, which is not itself traced. -/
  tracing : Bool := false
  /-- Descriptors that redirections have closed. A new process takes this over even if it is given
  such a descriptor again. -/
  closed : List Nat := []
  /-- How far `getopts` has come: the next argument, and the place in the present one. Zero if it was
  cut short. -/
  optionIndex : Nat := 1
  optionPlace : Option Nat := none
  /-- Where the shell believes to be. -/
  here : String := ""

/-- Why a program does not go on to the next command. -/
inductive Jump where
  /-- A command could not be carried out. -/
  | error
  /-- The shell was asked to end. -/
  | exit
  /-- The shell ends with the status of its last command. -/
  | quit
  deriving DecidableEq, Repr

/-- A program that gives a value: what happens after it, whether it gives a value or jumps, makes a
process of it. -/
def Act (α : Type) : Type :=
  (α → Scope → Process) → (Jump → Scope → Process) → Scope → Process

instance : Monad Act where
  pure a := fun done _ s => done a s
  bind act f := fun done jump s => act (fun a s => f a done jump s) jump s

instance : MonadExcept Jump Act where
  throw jump := fun _ leave s => leave jump s
  tryCatch act handle := fun done jump s => act done (fun e s => handle e done jump s) s

instance : MonadStateOf Scope Act where
  get := fun done _ s => done s s
  set s := fun done _ _ => done () s
  modifyGet f := fun done _ s => let (a, s) := f s; done a s

instance {α : Type} : Inhabited (Act α) := ⟨fun _ jump s => jump .exit s⟩

namespace Act

/-! ## Steps -/

/-- Does something with the kernel at once. -/
def step {α : Type} (f : Kernel → α × Kernel) : Act α :=
  fun done _ s => .step fun k => let (a, k) := f k; (done a s, k)

def kernel : Act Kernel := step fun k => (k, k)

def change (f : Kernel → Kernel) : Act Unit := step fun k => ((), f k)

def pause (duration : Nat) : Act Unit :=
  fun done _ s => .pause duration fun _ => done () s

def await (ready : Kernel → Bool) (deadline : Option Moment) : Act Unit :=
  fun done _ s => .await ready deadline fun _ => done () s

/-- Ends the process. -/
def exit {α : Type} (status : Nat) : Act α :=
  fun _ _ _ => .exit status

/-- Waits for what never comes. -/
def hang {α : Type} : Act α :=
  fun _ _ _ => .await (fun _ => false) none fun _ => .exit 0

/-- Starts a process that does something else, and gives its number. A light one is there sooner. -/
def fork (light : Bool) (child : Act Unit) : Act Nat :=
  fun done _ s =>
    .fork light (fun _ => child (fun _ s => .exit s.status) (fun _ s => .exit s.status) s)
      fun pid => done pid s

/-- Whether the process has caught signals that it has not looked at. -/
def interrupted : Act Bool :=
  step fun k => ((k.entry? k.self).any (!·.noticed.isEmpty), k)

/-- What a simple step of a shell takes. -/
def stepTime : Nat := 20

/-- What it takes to start a program. -/
def execTime : Nat := 700

/-- What it takes to make a block of zeros or random bytes. -/
def blockTime : Nat := 1000

/-! ## Input and output -/

/-- Reads some bytes, at most as many as wanted. A signal may end the wait for them. -/
def read (descriptor wanted : Nat) : Act Got := do
  attempt 1000
where
  attempt : Nat → Act Got
    | 0 => hang
    | tries + 1 => do
      let endless ← step fun k =>
        ((k.fileOf descriptor).any fun f =>
          f.2.endpoint == .device .zeros || f.2.endpoint == .device .random, k)
      if endless then pause blockTime
      match ← step fun k => k.read descriptor wanted with
      | .blocked =>
        await (fun k => k.readable descriptor) none
        if ← interrupted then return .blocked else attempt tries
      | got => return got

/-- Writes bytes; gives the reason if it cannot be done. -/
def write (descriptor : Nat) (bytes : Bytes) : Act (Option String) := do
  if bytes.isEmpty then return none else attempt (bytes.length + 1000) bytes
where
  attempt : Nat → Bytes → Act (Option String)
    | 0, _ => hang
    | tries + 1, bytes => do
      match ← step fun k => k.write descriptor bytes with
      | .taken count =>
        if count < bytes.length then attempt tries (bytes.drop count) else return none
      | .blocked =>
        let size := bytes.length
        await (fun k => k.writable descriptor size) none
        attempt tries bytes
      | .refused reason signal =>
        if let some signal := signal then change fun k => (k.send signal k.self).2
        return some reason

/-- Writes a text of bytes; what cannot be written is lost. -/
def writeText (descriptor : Nat) (text : String) : Act Unit := do
  let _ ← write descriptor (Raw.toBytes text.toList)

/-! ## State -/

def scope : Act Scope := get

def modifyScope (f : Scope → Scope) : Act Unit := modify f

def setStatus (status : Nat) : Act Unit :=
  modifyScope fun s => { s with status := status }

def hasOption (letter : Char) : Act Bool :=
  return (← scope).options.contains letter

/-- The disk seen from where this process is. -/
def disk : Act Disk := return (← kernel).localDisk

/-- The disk with what the system shows of processes. -/
def view : Act Disk := return (← kernel).view

/-- The places at which two disks differ, and those of the directories they are in. -/
def differences (before after : Disk) : List Location :=
  let other (one two : Disk) : List Location :=
    one.entries.filterMap fun (place, node) =>
      if two.node? place = some node then none else some place
  let changed := other after before ++ other before after
  changed ++ (changed.filter fun place =>
    (before.node? place).isSome != (after.node? place).isSome).map List.dropLast

/-- Changes the disk, if it can be done. -/
def changeDisk (f : Disk → Except Fault Disk) : Act (Except Fault Unit) :=
  step fun k =>
    match f k.localDisk with
    | .ok disk =>
      (.ok (), k.setDisk { disk with cwd := k.disk.cwd } (differences k.disk disk))
    | .error fault => (.error fault, k)

/-! ## Messages -/

/-- Says something on the standard error, as the shell does. -/
def complain (text : String) : Act Unit := do
  let scope ← scope
  let command := scope.commandName.elim "" (· ++ ": ")
  writeText 2 (scope.name ++ ": " ++ toString scope.line ++ ": " ++ command ++ text ++ "\n")

/-- Says something and gives up the command, or the shell. -/
def giveUp {α : Type} (text : String) : Act α := do
  complain text
  setStatus 2
  throw .error

/-- Runs an action and gives what made it jump, if anything. -/
def attempt (action : Act Unit) : Act (Option Jump) := do
  try
    action
    return none
  catch jump => return some jump

end Act

end Crosscheck.Shell
