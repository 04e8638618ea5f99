import Crosscheck.Process.Capture
import Crosscheck.Session
import Crosscheck.Shell.Eval

/-! # The machine

A machine with a shell and a few small programs, on which invocations can be run without leaving the
library. A process is killed when its time is up, together with everything it started; otherwise its
output is complete only when all that could write to it have ended.
-/

namespace Crosscheck.Machine

open Shell

/-- The environment that processes start with. -/
abbrev Environment := List (String × String)

def plain : Environment :=
  [("HOME", "/root"), ("PATH", Launch.defaultPath)]

/-- An environment in which messages may hold any characters. -/
def unicode : Environment :=
  plain ++ [("LC_ALL", "C.UTF-8"), ("NO_COLOR", "1")]

/-! ## Directories -/

/-- Users and their homes, in the form of the list of users. -/
def users : List (String × String) :=
  [("root:x:0:0:root", "/root:/bin/bash"), ("daemon:x:1:1:daemon", "/usr/sbin:/usr/sbin/nologin"),
    ("bin:x:2:2:bin", "/bin:/usr/sbin/nologin"), ("sys:x:3:3:sys", "/dev:/usr/sbin/nologin"),
    ("sync:x:4:65534:sync", "/bin:/bin/sync"), ("games:x:5:60:games", "/usr/games:/usr/sbin/nologin"),
    ("man:x:6:12:man", "/var/cache/man:/usr/sbin/nologin"),
    ("lp:x:7:7:lp", "/var/spool/lpd:/usr/sbin/nologin"), ("mail:x:8:8:mail", "/var/mail:/usr/sbin/nologin"),
    ("news:x:9:9:news", "/var/spool/news:/usr/sbin/nologin"),
    ("uucp:x:10:10:uucp", "/var/spool/uucp:/usr/sbin/nologin"),
    ("proxy:x:13:13:proxy", "/bin:/usr/sbin/nologin"),
    ("www-data:x:33:33:www-data", "/var/www:/usr/sbin/nologin"),
    ("backup:x:34:34:backup", "/var/backups:/usr/sbin/nologin"),
    ("list:x:38:38:Mailing List Manager", "/var/list:/usr/sbin/nologin"),
    ("irc:x:39:39:ircd", "/run/ircd:/usr/sbin/nologin"),
    ("_apt:x:42:65534:", "/nonexistent:/usr/sbin/nologin"),
    ("nobody:x:65534:65534:nobody", "/nonexistent:/usr/sbin/nologin")]

/-- The list of users. -/
def userList : Bytes :=
  Utf8.encode (String.join (users.map fun (user, home) => user ++ ":" ++ home ++ "\n"))

/-- Directories, links, devices and programs that every machine has. -/
def furniture : List (Location × Node) :=
  let directories : List Location :=
    [["usr"], ["usr", "bin"], ["usr", "lib"], ["usr", "local"], ["usr", "local", "bin"],
      ["usr", "local", "sbin"], ["usr", "sbin"], ["usr", "share"], ["dev"], ["dev", "mqueue"],
      ["dev", "pts"], ["dev", "shm"], ["etc"], ["home"], ["opt"], ["proc"], ["root"], ["run"], ["srv"],
      ["sys"], ["tmp"], ["var"], ["var", "tmp"]]
  let links : List (Location × String) :=
    [(["bin"], "usr/bin"), (["lib"], "usr/lib"), (["sbin"], "usr/sbin"),
      (["dev", "core"], "/proc/kcore"), (["dev", "fd"], "/proc/self/fd"), (["dev", "ptmx"], "pts/ptmx"),
      (["dev", "stdin"], "/proc/self/fd/0"), (["dev", "stdout"], "/proc/self/fd/1"),
      (["dev", "stderr"], "/proc/self/fd/2")]
  let devices : List (String × Device) :=
    [("null", .null), ("zero", .zeros), ("full", .full), ("random", .random), ("urandom", .random),
      ("tty", .terminal)]
  directories.map (·, .directory true) ++ links.map (fun (place, target) => (place, .link target))
    ++ devices.map (fun (name, device) => (["dev", name], .device device))
    ++ [(["etc", "passwd"], .file userList false)]
    ++ Launch.machine.map fun (name, _) => (["usr", "bin", name], .file (Launch.image name) true)

/-- What a disk lacks of it. -/
def missing (disk : Disk) : List (Location × Node) :=
  furniture.filter fun (place, _) => (disk.node? place).isNone

/-- Takes away again what was added, the deepest first, unless something is in it. -/
def removeAll (disk : Disk) (nodes : List (Location × Node)) : Disk :=
  nodes.foldr
    (fun (place, node) disk =>
      if disk.node? place = some node && (disk.children place).isEmpty then disk.erase place else disk)
    disk

/-! ## Invocations -/

/-- The number of the process that an invocation starts. -/
def firstPid : Nat := 1000

/-- How many steps all processes together can take. -/
def steps : Nat := 1000000000

/-- How deep commands can contain each other. -/
def depth : Nat := 50000

/-- A kernel with one process, whose output is kept, up to a limit. -/
def kernel (disk : Disk) (limit : Nat) : Kernel :=
  let output (number : Nat) : OpenFile := { endpoint := .capture number, reads := false, writes := true }
  let first : Entry :=
    { pid := firstPid, parent := 1, descriptors := [(0, 0), (1, 1), (2, 2)], cwd := disk.cwd }
  { disk
    self := firstPid
    files := #[{ endpoint := .device .null, reads := true, writes := false }, output 0, output 1]
    captured := #[{ room := limit }, { room := limit }]
    entries := {(firstPid, first)}
    root := firstPid
    nextPid := firstPid + 1 }

/-- Connects the standard input to a path. -/
def withInput (k : Kernel) : Option String → Except Error Kernel
  | none => .ok k
  | some path =>
    match k.openPath path { reads := true } with
    | (.ok index, k) => .ok (k.connect 0 index)
    | (.error fault, _) => .error (.io path "cannot open as standard input" fault.message)

/-- Finds the program of an invocation. -/
def launchOf (environment : Environment) (disk : Disk) (invocation : Invocation) :
    Except Error Launch :=
  let holdsNul (text : String) : Bool := text.toList.contains '\x00'
  if holdsNul invocation.program || invocation.args.any holdsNul then
    .error (cannotSpawn invocation "nul byte found in provided data")
  else
    let path := (environment.lookup "PATH").getD Launch.defaultPath
    let resolved :=
      Launch.resolve false disk path (Raw.ofText invocation.program) (invocation.args.map Raw.ofText)
    resolved.mapError fun fault => cannotSpawn invocation fault.message

/-- The process that a program makes. -/
def processOf (environment : Environment) (launch : Launch) : Process :=
  (Shell.run depth).become 1000 launch environment (fun status _ => .exit status)
    (fun _ scope => .exit scope.status) { name := launch.name, leader := firstPid }

/-- How the first process ended. -/
def ended (k : Kernel) : Option ExitState :=
  (k.entry? firstPid).bind (·.ended)

/-- Whether nothing more can be written to the output. -/
def isQuiet (k : Kernel) : Bool :=
  !k.isHeld (.capture 0) && !k.isHeld (.capture 1)

/-- Runs the first process to its end, and then all that can still write to the output. -/
def play (k : Kernel) (process : Process) (limit : Option Moment) : ExitState × Kernel :=
  let start : Schedule := { kernel := k, tasks := [{ pid := firstPid, moment := 0, process }] }
  let s := start.run (fun k => (ended k).isSome) limit steps
  match ended s.kernel with
  | none => (.timedOut, s.kernel)
  | some state => (state, (s.run isQuiet none steps).kernel)

/-- What was captured of an output. -/
def captureOf (k : Kernel) (number : Nat) (cap : Nat) : Capture :=
  let chunks := k.captured[number]?.elim [] (·.chunks)
  Capture.ofBytes cap (chunks.reverse.flatten.take (cap + 1))

def run (environment : Environment) (disk : Disk) (invocation : Invocation) :
    Except Error Output × Disk :=
  let added := missing disk
  let disk := disk.setAll added
  let answer : Except Error (Output × Disk) := do
    let k ← withInput (kernel disk invocation.outputLimit) invocation.stdin
    let launch ← launchOf environment disk invocation
    let (state, k) := play k (processOf environment launch) (invocation.timeout.map (· * 1000))
    let stdout := captureOf k 0 invocation.outputLimit
    let stderr := captureOf k 1 invocation.outputLimit
    return (⟨state, stdout.kept, stderr.kept, stdout.cut, stderr.cut⟩, k.disk)
  match answer with
  | .ok (output, after) => (.ok output, removeAll { after with cwd := disk.cwd } added)
  | .error error => (.error error, removeAll disk added)

/-- Runs invocations on the machine. -/
def runner (environment : Environment) : Crosscheck.Runner Unit where
  run _ disk invocation :=
    let (answer, disk) := run environment disk invocation
    (answer, (), disk)

end Crosscheck.Machine
