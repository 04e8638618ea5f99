import Crosscheck.Disk
import Crosscheck.Process
import Crosscheck.Shell.Limit
import Crosscheck.Shell.Permission
import Crosscheck.Shell.Raw
import Crosscheck.Shell.Signal
import Std.Data.TreeMap

/-! # The kernel

What all processes of a machine share: the disk, the clock, open files, pipes and the table of
processes. A read from a pipe ends only when nobody can write to it any more, and a write is refused
only when nobody can read from it.
-/

namespace Crosscheck.Shell

/-- Moments, in microseconds from the start. -/
abbrev Moment := Nat

/-- The system notices the passing of time in steps so long. -/
def Kernel.tick : Nat := 4000

/-- What an open file leads to. -/
inductive Endpoint where
  | device (device : Device)
  | directory (place : Location)
  | file (place : Location) (append : Bool)
  /-- A text that is being read: what is left of it. -/
  | text (rest : Bytes)
  | reader (pipe : Nat)
  | writer (pipe : Nat)
  /-- Output that is kept for whoever started the machine. -/
  | capture (index : Nat)
  deriving DecidableEq

structure OpenFile where
  endpoint : Endpoint
  reads : Bool
  writes : Bool
  /-- How far a file has been read or written. -/
  offset : Nat := 0
  /-- What comes after the offset, and the state of the disk for which this holds. -/
  ahead : Bytes × Nat := ([], 0)

/-- What was written to a pipe and not yet read. -/
structure Pipe where
  front : List Bytes := []
  /-- Later chunks, latest first. -/
  back : List Bytes := []
  size : Nat := 0

namespace Pipe

def capacity : Nat := 65536

def push (pipe : Pipe) (bytes : Bytes) : Pipe :=
  { pipe with back := bytes :: pipe.back, size := pipe.size + bytes.length }

/-- Takes bytes from the front of chunks. -/
def takeFrom : Nat → List Bytes → List Bytes × List Bytes
  | _, [] => ([], [])
  | 0, chunks => ([], chunks)
  | wanted, chunk :: rest =>
    let size := chunk.length
    if size ≤ wanted then
      let (taken, rest) := takeFrom (wanted - size) rest
      (chunk :: taken, rest)
    else ([chunk.take wanted], chunk.drop wanted :: rest)

def pop (pipe : Pipe) (wanted : Nat) : Bytes × Pipe :=
  let (taken, rest) := takeFrom wanted (pipe.front ++ pipe.back.reverse)
  let bytes :=
    match taken with
    | [chunk] => chunk
    | chunks => chunks.flatten
  (bytes, { front := rest, back := [], size := pipe.size - bytes.length })

end Pipe

/-- Output that is kept: the latest chunk first. What goes past the room is only counted. -/
structure Captured where
  chunks : List Bytes := []
  size : Nat := 0
  room : Nat

def Captured.push (captured : Captured) (bytes : Bytes) : Captured :=
  if captured.room < captured.size then captured
  else { captured with chunks := bytes :: captured.chunks, size := captured.size + bytes.length }

/-- What the kernel knows of a process. -/
structure Entry where
  pid : Nat
  parent : Nat
  /-- Open descriptors and their files. -/
  descriptors : List (Nat × Nat)
  /-- Where relative paths start. -/
  cwd : Location
  mask : Nat := 18
  limits : Limits := {}
  /-- How long it has been busy. -/
  busy : Nat := 0
  /-- The program that it runs, and with which arguments. -/
  program : String := ""
  args : List String := []
  ignored : List Nat := []
  caught : List Nat := []
  /-- Signals that were sent and have not taken effect yet. -/
  arrived : List Nat := []
  /-- Signals that were caught and not yet looked at. -/
  noticed : List Nat := []
  stopped : Bool := false
  ended : Option ExitState := none

structure Kernel where
  disk : Disk
  /-- Counts the changes of the disk. -/
  version : Nat := 0
  /-- When files were changed last, if not before the start. -/
  changes : List (Location × Moment) := []
  /-- The permissions of files, where they are not the usual ones. -/
  modes : List (Location × Nat) := []
  clock : Moment := 0
  /-- The process that is taking a step. -/
  self : Nat
  files : Array OpenFile := #[]
  pipes : Array Pipe := #[]
  captured : Array Captured := #[]
  /-- Processes by their numbers. -/
  entries : Std.TreeMap Nat Entry
  /-- The process that was started first. -/
  root : Nat
  nextPid : Nat
  /-- From which the next random byte is made. -/
  seed : Nat := 1

/-- The result of reading. -/
inductive Got where
  | bytes (bytes : Bytes)
  | ended
  /-- Nothing is there yet. -/
  | blocked
  | unreadable (reason : String)

/-- The result of writing. -/
inductive Put where
  /-- So many bytes were taken. -/
  | taken (count : Nat)
  | blocked
  /-- Why nothing was taken, and the signal that comes with it. -/
  | refused (reason : String) (signal : Option Nat)

namespace Kernel

/-! ## Processes -/

def entry? (k : Kernel) (pid : Nat) : Option Entry :=
  k.entries[pid]?

def update (k : Kernel) (pid : Nat) (f : Entry → Entry) : Kernel :=
  { k with entries := k.entries.modify pid f }

def updateSelf (k : Kernel) (f : Entry → Entry) : Kernel :=
  k.update k.self f

def descriptors (k : Kernel) : List (Nat × Nat) :=
  (k.entry? k.self).elim [] (·.descriptors)

/-- The limit of the present process for a resource. -/
def limit (k : Kernel) (resource : Resource) : Option Nat :=
  (((k.entry? k.self).elim {} (·.limits)).get resource).value

/-! ## The disk -/

/-- The disk seen from where the present process is. -/
def localDisk (k : Kernel) : Disk :=
  match k.entry? k.self with
  | some e => { k.disk with cwd := e.cwd }
  | none => k.disk

/-- Puts another disk in place of the present one, on which the given places are changed. -/
def setDisk (k : Kernel) (disk : Disk) (changed : List Location) : Kernel :=
  { k with
    disk := disk
    version := k.version + 1
    changes :=
      changed.map (·, k.clock) ++ k.changes.filter fun change => !changed.contains change.1
    modes := k.modes.filter fun mode => (disk.node? mode.1).isSome }

/-- Says when what is at a location was changed. -/
def setChanged (k : Kernel) (place : Location) (moment : Moment) : Kernel :=
  { k with changes := (place, moment) :: k.changes.filter (·.1 != place) }

/-- Directories in which everybody may make files, and only remove their own. -/
def isShared (place : Location) : Bool :=
  [["tmp"], ["var", "tmp"], ["dev", "shm"], ["dev", "mqueue"]].contains place

/-- The permissions of what is at a location, if nothing was done about them. -/
def usualMode (place : Location) : Node → Nat
  | .file _ executable => if executable then 0o755 else 0o644
  | .directory _ => if isShared place then 0o1777 else 0o755
  | .link _ => 0o777
  | .device _ => 0o666
  | .stream _ => 0o600

/-- The permissions of what is at a location. -/
def modeOf (k : Kernel) (place : Location) (node : Node) : Nat :=
  (k.modes.lookup place).getD (usualMode place node)

/-- Gives what is at a location its permissions. -/
def setMode (k : Kernel) (place : Location) (mode : Nat) : Kernel :=
  let disk :=
    match k.disk.node? place with
    | some (.file content _) =>
      k.disk.set place (.file content (Nat.land mode Permission.running != 0))
    | _ => k.disk
  let others := k.modes.filter (·.1 != place)
  let usual := (disk.node? place).map (usualMode place)
  { k with disk, modes := if usual == some mode then others else (place, mode) :: others }

/-- What the present process does not allow for the files it makes. -/
def mask (k : Kernel) : Nat :=
  (k.entry? k.self).elim 0o22 (·.mask)

/-- What a signal does to a process. -/
inductive Effect where
  | nothing
  | notice
  | stop
  | resume
  | kill
  deriving DecidableEq, Repr

def effect (e : Entry) (signal : Nat) : Effect :=
  if signal = Signal.kill then .kill
  else if signal = Signal.stop then .stop
  else if signal = Signal.cont && e.stopped then .resume
  else if e.ignored.contains signal then .nothing
  else if e.caught.contains signal then .notice
  else if Signal.isHarmless signal then .nothing
  else if Signal.isStop signal then .stop
  else .kill

/-- Sends a signal; tells whether there is such a process. The first one is gone as soon as it has
ended, others when somebody has waited for them. -/
def send (k : Kernel) (signal pid : Nat) : Bool × Kernel :=
  match k.entry? pid with
  | none => (false, k)
  | some e =>
    if signal = 0 || e.ended.isSome then (e.ended.isNone || pid != k.root, k)
    else (true, k.update pid fun e => { e with arrived := e.arrived ++ [signal] })

/-- Tells the parent of a process that it has ended, if the parent cares. -/
def tellParent (k : Kernel) (pid : Nat) : Kernel :=
  match (k.entry? pid).bind fun e => k.entry? e.parent with
  | none => k
  | some parent =>
    if parent.caught.contains Signal.child then (k.send Signal.child parent.pid).2 else k

/-- A process has ended: its descriptors are closed, and its parent can learn how it ended. Those that
nobody can ask about are forgotten. -/
def finish (k : Kernel) (pid : Nat) (state : ExitState) : Kernel :=
  let k := k.update pid fun e => { e with descriptors := [], arrived := [], ended := some state }
  let k := k.tellParent pid
  let alive (parent : Nat) : Bool := (k.entry? parent).any (·.ended.isNone)
  { k with
    entries := k.entries.filter fun pid e => pid == k.root || e.ended.isNone || alive e.parent }

/-- Forgets a process that has ended. -/
def forget (k : Kernel) (pid : Nat) : Kernel :=
  { k with entries := k.entries.erase pid }

/-- A new process like the present one. It has not been busy yet. -/
def spawn (k : Kernel) : Nat × Kernel :=
  match k.entry? k.self with
  | none => (0, k)
  | some e =>
    let pid := k.nextPid
    let child : Entry :=
      { e with pid := pid, parent := k.self, arrived := [], noticed := [], busy := 0 }
    (pid, { k with nextPid := pid + 1, entries := k.entries.insert pid child })

/-! ## Descriptors -/

def fileOf (k : Kernel) (descriptor : Nat) : Option (Nat × OpenFile) :=
  match k.descriptors.lookup descriptor with
  | none => none
  | some index => k.files[index]?.map fun file => (index, file)

/-- The lowest descriptor from a number on that is not in use. -/
def freeDescriptor (k : Kernel) (least : Nat) : Nat :=
  let used := k.descriptors.map Prod.fst
  ((List.range (used.length + 1)).map (· + least)).find? (!used.contains ·) |>.getD least

/-- Whether so many more descriptors are allowed. -/
def hasRoom (k : Kernel) (count : Nat) : Bool :=
  let used := k.descriptors.map Prod.fst
  let free := (List.range (used.length + count)).filter (!used.contains ·)
  (k.limit .descriptors).all fun most => (free.take count).all (· < most)

def addFile (k : Kernel) (file : OpenFile) : Nat × Kernel :=
  (k.files.size, { k with files := k.files.push file })

def setFile (k : Kernel) (index : Nat) (file : OpenFile) : Kernel :=
  { k with files := k.files.setIfInBounds index file }

def connect (k : Kernel) (descriptor index : Nat) : Kernel :=
  k.updateSelf fun e =>
    { e with
      descriptors := (descriptor, index) :: e.descriptors.filter (·.1 != descriptor) }

def disconnect (k : Kernel) (descriptor : Nat) : Kernel :=
  k.updateSelf fun e => { e with descriptors := e.descriptors.filter (·.1 != descriptor) }

/-- Makes a pipe and gives the files of its two ends. -/
def pipe (k : Kernel) : (Nat × Nat) × Kernel :=
  let number := k.pipes.size
  let k := { k with pipes := k.pipes.push {} }
  let (reader, k) := k.addFile { endpoint := .reader number, reads := true, writes := false }
  let (writer, k) := k.addFile { endpoint := .writer number, reads := false, writes := true }
  ((reader, writer), k)

/-- Whether any process has a descriptor that leads to an endpoint. -/
def isHeld (k : Kernel) (endpoint : Endpoint) : Bool :=
  k.entries.any fun _ e =>
    e.descriptors.any fun d => k.files[d.2]?.any (·.endpoint == endpoint)

/-! ## Reading -/

def zeroBlock : Bytes := List.replicate 8192 0

/-- Random bytes, and what later ones are made from. -/
def randomBytes : Nat → Nat → Bytes → Bytes × Nat
  | 0, seed, bytes => (bytes, seed)
  | count + 1, seed, bytes =>
    let seed := (seed * 6364136223846793005 + 1442695040888963407) % UInt64.size
    randomBytes count seed (UInt8.ofNat (seed / 4294967296) :: bytes)

/-- What comes after an offset of a file, remembered as long as the disk stays the same. -/
def aheadOf (k : Kernel) (file : OpenFile) (place : Location) : Bytes :=
  if file.ahead.2 = k.version && !file.ahead.1.isEmpty then file.ahead.1
  else
    match k.disk.node? place with
    | some (.file content _) => content.drop file.offset
    | _ => []

/-- Reads at most so many bytes. -/
def read (k : Kernel) (descriptor wanted : Nat) : Got × Kernel :=
  match k.fileOf descriptor with
  | none => (.unreadable "Bad file descriptor", k)
  | some (index, file) =>
    if !file.reads then (.unreadable "Bad file descriptor", k)
    else
      match file.endpoint with
      | .device .null | .device .terminal | .capture _ | .writer _ => (.ended, k)
      | .device .zeros | .device .full =>
        (.bytes (if 8192 ≤ wanted then zeroBlock else List.replicate wanted 0), k)
      | .device .random =>
        let (bytes, seed) := randomBytes (min wanted 8192) k.seed []
        (.bytes bytes, { k with seed := seed })
      | .directory _ => (.unreadable "Is a directory", k)
      | .text rest =>
        if rest.isEmpty then (.ended, k)
        else
          (.bytes (rest.take wanted),
            k.setFile index { file with endpoint := .text (rest.drop wanted) })
      | .file place _ =>
        let ahead := k.aheadOf file place
        if ahead.isEmpty then (.ended, k)
        else
          let bytes := ahead.take wanted
          (.bytes bytes,
            k.setFile index
              { file with
                offset := file.offset + bytes.length
                ahead := (ahead.drop wanted, k.version) })
      | .reader number =>
        let pipe := k.pipes[number]?.getD {}
        if pipe.size = 0 then
          if k.isHeld (.writer number) then (.blocked, k) else (.ended, k)
        else
          let (bytes, pipe) := pipe.pop wanted
          (.bytes bytes, { k with pipes := k.pipes.setIfInBounds number pipe })

/-- Whether a read would not have to wait. -/
def readable (k : Kernel) (descriptor : Nat) : Bool :=
  match k.fileOf descriptor with
  | some (_, { endpoint := .reader number, .. }) =>
    (k.pipes[number]?.any (0 < ·.size)) || !k.isHeld (.writer number)
  | _ => true

/-! ## Writing -/

/-- Puts bytes into a content at an offset. -/
def overwrite (content : Bytes) (offset : Nat) (bytes : Bytes) : Bytes :=
  let before := content.take offset
  let gap := List.replicate (offset - before.length) 0
  before ++ gap ++ bytes ++ content.drop (offset + bytes.length)

/-- Writes bytes, or some of them. A file does not grow beyond the limit. -/
def write (k : Kernel) (descriptor : Nat) (bytes : Bytes) : Put × Kernel :=
  match k.fileOf descriptor with
  | none => (.refused "Bad file descriptor" none, k)
  | some (index, file) =>
    if !file.writes then (.refused "Bad file descriptor" none, k)
    else
      match file.endpoint with
      | .device .full =>
        if bytes.isEmpty then (.taken 0, k) else (.refused "No space left on device" none, k)
      | .device _ => (.taken bytes.length, k)
      | .directory _ | .text _ | .reader _ => (.refused "Bad file descriptor" none, k)
      | .capture number =>
        let captured := k.captured[number]?.getD { room := 0 }
        (.taken bytes.length,
          { k with captured := k.captured.setIfInBounds number (captured.push bytes) })
      | .file place append =>
        match k.disk.node? place with
        | some (.file content executable) =>
          let offset := if append then content.length else file.offset
          let room := (k.limit .fileSize).elim bytes.length (· - offset)
          if room = 0 && !bytes.isEmpty then (.refused "File too large" (some Signal.fileSize), k)
          else
            let part := if bytes.length ≤ room then bytes else bytes.take room
            let disk := k.disk.set place (.file (overwrite content offset part) executable)
            (.taken part.length,
              (k.setDisk disk [place]).setFile index { file with offset := offset + part.length })
        | _ => (.taken bytes.length, k)
      | .writer number =>
        if !k.isHeld (.reader number) then (.refused "Broken pipe" (some Signal.pipe), k)
        else
          let pipe := k.pipes[number]?.getD {}
          let room := Pipe.capacity - pipe.size
          if room = 0 || (room < bytes.length && bytes.length ≤ 4096) then (.blocked, k)
          else
            let part := if bytes.length ≤ room then bytes else bytes.take room
            (.taken (min bytes.length room),
              { k with pipes := k.pipes.setIfInBounds number (pipe.push part) })

/-- Whether a write of so many bytes would not have to wait. -/
def writable (k : Kernel) (descriptor size : Nat) : Bool :=
  match k.fileOf descriptor with
  | some (_, { endpoint := .writer number, .. }) =>
    let room := Pipe.capacity - (k.pipes[number]?.elim 0 (·.size))
    (0 < room && (size ≤ room || 4096 < size)) || !k.isHeld (.reader number)
  | _ => true

/-! ## Moving and removing -/

/-- Where a location is after what is at one place was moved to another. -/
def moved (source target place : Location) : Location :=
  if source.isPrefixOf place then target ++ place.drop source.length else place

/-- Moves what is at a place, with everything below it, to another one. What is there is lost. Files
that are open stay so. -/
def move (k : Kernel) (source target : Location) : Kernel :=
  let tree := k.disk.entries.filter fun e => source.isPrefixOf e.1
  let cleared := k.disk.entries.foldl
    (fun disk e =>
      if source.isPrefixOf e.1 || target.isPrefixOf e.1 then disk.erase e.1 else disk) k.disk
  let disk := tree.foldr (fun e disk => disk.set (moved source target e.1) e.2) cleared
  let carry {α : Type} (table : List (Location × α)) : List (Location × α) :=
    (table.filter fun e => !target.isPrefixOf e.1).map fun e => (moved source target e.1, e.2)
  let follow (file : OpenFile) : OpenFile :=
    match file.endpoint with
    | .file place append => { file with endpoint := .file (moved source target place) append }
    | .directory place => { file with endpoint := .directory (moved source target place) }
    | _ => file
  let k :=
    { k with
      changes := carry k.changes
      files := k.files.map follow
      entries := k.entries.map fun _ (e : Entry) =>
        ({ e with cwd := moved source target e.cwd } : Entry) }
  let modes := carry k.modes
  { k.setDisk disk [source.dropLast, target.dropLast] with modes }

/-- Removes what is at a place. Who has it open can read on. -/
def remove (k : Kernel) (place : Location) : Kernel :=
  let keep (file : OpenFile) : OpenFile :=
    match file.endpoint with
    | .file other _ =>
      if other = place && file.reads then { file with endpoint := .text (k.aheadOf file place) }
      else file
    | _ => file
  let files := k.files.map keep
  { k.setDisk (k.disk.erase place) [place.dropLast] with files }

/-! ## What the system shows of itself -/

/-- What the system tells about a process. -/
def processStat (e : Entry) (group : Nat) : String :=
  toString e.pid ++ " (" ++ e.program ++ ") S " ++ toString e.parent ++ " " ++ toString group ++ " "
    ++ toString group ++ " 0 -1 4194304 0 0 0 0 0 0 0 0 20 0 1 0 0 0 0\n"

def absolute (place : Location) : String :=
  "/" ++ "/".intercalate place

/-- The number of a stream; the two ends of a pipe have the same. -/
def streamNumber (index : Nat) : Endpoint → Nat
  | .reader pipe | .writer pipe => 2 * pipe + 100
  | _ => 2 * index + 101

/-- Where an open file leads, as a path. Streams have places that only the system knows. -/
def endpointPath (index : Nat) : Endpoint → String
  | .device .null => "/dev/null"
  | .device .zeros => "/dev/zero"
  | .device .full => "/dev/full"
  | .device .random => "/dev/urandom"
  | .device .terminal => "/dev/tty"
  | .directory place | .file place _ => absolute place
  | endpoint => "/proc/pipe:[" ++ toString (streamNumber index endpoint) ++ "]"

/-- What the system shows of a process: what it runs, where it is, and its descriptors. -/
def processNodes (k : Kernel) (e : Entry) : List (Location × Node) :=
  let base := ["proc", toString e.pid]
  let line := String.join (e.args.map (· ++ "\x00"))
  let about : List (Location × Node) :=
    [(base, .directory true), (base ++ ["fd"], .directory true), (base ++ ["cwd"], .link (absolute e.cwd)),
      (base ++ ["stat"], .file (Utf8.encode (processStat e k.root)) false),
      (base ++ ["comm"], .file (Raw.toBytes (e.program ++ "\n").toList) false),
      (base ++ ["cmdline"], .file (Raw.toBytes line.toList) false)]
  about ++ e.descriptors.flatMap fun (descriptor, index) =>
    match k.files[index]? with
    | none => []
    | some file =>
      let path := endpointPath index file.endpoint
      let link := (base ++ ["fd", toString descriptor], Node.link path)
      match file.endpoint with
      | .text _ | .reader _ | .writer _ | .capture _ =>
        [link, ((Path.segments path).tail, .stream index)]
      | _ => [link]

/-- Whether a place is one where the system shows what it knows, apart from descriptors. -/
def isShown : Location → Bool
  | ["proc"] | ["proc", _] => true
  | ["proc", _, name] => name != "fd"
  | _ => false

/-- The disk as the present process sees it, with what the system shows of processes. -/
def view (k : Kernel) : Disk :=
  let own : Location × Node := (["proc", "self"], .link (toString k.self))
  k.localDisk.setAll (own :: k.entries.values.flatMap k.processNodes)

/-- The disk as the present process sees it while it lists a directory, for which it has a descriptor
open. -/
def listingView (k : Kernel) : Disk :=
  let own := ["proc", toString k.self, "fd"]
  k.view.set (own ++ [toString (k.freeDescriptor 0)]) (.link (absolute own))

/-- What there is to know about a file. -/
structure Status where
  node : Node
  /-- Where it is; the same for all ways that lead to it. -/
  place : Location
  changed : Moment
  mode : Nat

/-- What there is at a path; a link at its end can be followed. -/
def status? (k : Kernel) (follow : Bool) (path : String) : Option Status :=
  let disk := k.view
  match disk.locate follow path with
  | .error _ => none
  | .ok place =>
    (disk.node? place).map fun node =>
      ⟨node, place, (k.changes.lookup place).getD 0, k.modeOf place node⟩

/-! ## Opening -/

/-- What a file is opened for. -/
structure Access where
  reads : Bool := false
  writes : Bool := false
  append : Bool := false
  truncate : Bool := false
  create : Bool := false
  /-- A file that is there already is refused. -/
  keep : Bool := false

/-- Opens a stream that somebody has open. A pipe can be opened at either end. -/
def openStream (k : Kernel) (access : Access) (index : Nat) : Nat × Kernel :=
  match k.files[index]? with
  | none => (index, k)
  | some file =>
    match file.endpoint with
    | .reader pipe | .writer pipe =>
      k.addFile
        { endpoint := if access.writes then .writer pipe else .reader pipe
          reads := access.reads
          writes := access.writes }
    | _ => (index, k)

/-- Opens a path and gives the number of the file. -/
def openPath (k : Kernel) (path : String) (access : Access) : Except Fault Nat × Kernel :=
  let opened (k : Kernel) (endpoint : Endpoint) : Except Fault Nat × Kernel :=
    let (index, k) :=
      k.addFile { endpoint := endpoint, reads := access.reads, writes := access.writes }
    (.ok index, k)
  let disk := k.view
  let made := if access.create then disk.writeFile path [] false else .error .notFound
  match disk.locate true path with
  | .error fault =>
    match made with
    | .error .isDirectory => (.error .isDirectory, k)
    | _ => (.error fault, k)
  | .ok place =>
    if !k.hasRoom 1 then (.error .tooManyOpen, k)
    else
      match disk.node? place with
      | some (.directory _) =>
        if access.writes then (.error .isDirectory, k) else opened k (.directory place)
      | some (.device .terminal) => (.error .noDevice, k)
      | some (.device device) => opened k (.device device)
      | some (.stream index) =>
        let (index, k) := k.openStream access index
        (.ok index, k)
      | some (.link _) => (.error .tooManyLinks, k)
      | some (.file content executable) =>
        if access.keep then (.error .taken, k)
        else if (k.disk.node? place).isNone then opened k (.text content)
        else
          let k := if access.truncate then
              k.setDisk (k.disk.set place (.file [] executable)) [place]
            else k
          opened k (.file place access.append)
      | none =>
        match made with
        | .error fault => (.error fault, k)
        | .ok _ =>
          if (k.disk.node? place.dropLast).isNone || isShown place then (.error .notFound, k)
          else
            let disk := k.disk.set place (.file [] false)
            let k := k.setDisk disk [place, place.dropLast]
            let k := k.setMode place (Permission.without 0o666 k.mask)
            opened k (.file place access.append)

end Kernel

/-! ## Running processes -/

/-- A process is what it does next. -/
inductive Process where
  | exit (status : Nat)
  /-- Does something at once. -/
  | step (next : Kernel → Process × Kernel)
  /-- Is busy for a time. -/
  | pause (duration : Nat) (next : Unit → Process)
  /-- Waits until something is so, a moment has come, or a signal arrives. -/
  | await (ready : Kernel → Bool) (deadline : Option Moment) (next : Unit → Process)
  /-- Starts another process and learns its number. One that becomes a program at once is light. -/
  | fork (light : Bool) (child : Unit → Process) (next : Nat → Process)

/-- A process in progress, and when it goes on. -/
structure Task where
  pid : Nat
  moment : Moment
  process : Process

structure Schedule where
  kernel : Kernel
  tasks : List Task

namespace Schedule

/-- What it takes to make a process. -/
def forkTime (light : Bool) : Nat := if light then 50 else 300

/-- How long a new process takes until it does something. -/
def startTime (light : Bool) : Nat := if light then 0 else 600

/-- When a task can go on, if it can. A signal that has an effect does not let it wait. -/
def turnOf (k : Kernel) (task : Task) : Option Moment :=
  match k.entry? task.pid with
  | none => none
  | some e =>
    let effects := e.arrived.map (Kernel.effect e)
    if effects.any (· != .nothing) && (!e.stopped || effects.any (fun f => f == .kill || f == .resume))
    then some k.clock
    else if e.stopped then none
    else
      match task.process with
      | .await ready deadline _ =>
        if ready { k with self := task.pid } then some (max k.clock task.moment)
        else deadline.map (max task.moment)
      | _ => some task.moment

/-- The task whose turn is next. -/
def nextTurn (k : Kernel) : List Task → Option (Moment × Task)
  | [] => none
  | task :: rest =>
    match turnOf k task, nextTurn k rest with
    | some moment, some (other, later) =>
      if moment ≤ other then some (moment, task) else some (other, later)
    | some moment, none => some (moment, task)
    | none, later => later

/-- Lets the signals that have arrived take effect; tells how the process ended, if it did. -/
def takeSignals (k : Kernel) (pid : Nat) : Option ExitState × Kernel :=
  match k.entry? pid with
  | none => (none, k)
  | some e =>
    let after := e.arrived.foldl
      (fun (state : Option ExitState × Entry) signal =>
        match state with
        | (some ended, e) => (some ended, e)
        | (none, e) =>
          match Kernel.effect e signal with
          | .nothing => (none, e)
          | .notice =>
            (none, if e.noticed.contains signal then e else { e with noticed := e.noticed ++ [signal] })
          | .stop => (none, { e with stopped := true })
          | .resume => (none, { e with stopped := false })
          | .kill => (some (.signaled signal), e))
      ((none, { e with arrived := [] }) : Option ExitState × Entry)
    match after with
    | (some state, _) => (some state, k.finish pid state)
    | (none, e) => (none, k.update pid fun _ => e)

/-- Counts the time for which a process is busy. When all it may have is used up, signals come; this
is looked at only now and then. -/
def spend (k : Kernel) (pid duration : Nat) : Kernel :=
  match k.entry? pid with
  | none => k
  | some e =>
    let before := e.busy
    let now := e.busy + duration
    let k := k.update pid fun e => { e with busy := now }
    let limit := e.limits.get .time
    let passed (unit : Nat) : Bool := before / unit < now / unit
    let used (limit : Option Nat) : Bool := limit.any (· ≤ now / 1000000)
    if !passed Kernel.tick then k
    else if used limit.bound then (k.send Signal.kill pid).2
    else if used limit.value && passed 1000000 then (k.send Signal.time pid).2
    else k

/-- Lets the task whose turn it is go one step. -/
def advance (s : Schedule) (moment : Moment) (task : Task) : Schedule :=
  let others := s.tasks.filter (·.pid != task.pid)
  let k := { s.kernel with clock := max s.kernel.clock moment, self := task.pid }
  let signaled := (k.entry? task.pid).any (!·.arrived.isEmpty)
  let (ended, k) := if signaled then takeSignals k task.pid else (none, k)
  let later (process : Process) (at_ : Moment) : List Task :=
    others ++ [{ task with process := process, moment := at_ }]
  match ended with
  | some _ => { kernel := k, tasks := others }
  | none =>
    if (k.entry? task.pid).any (·.stopped) then
      { kernel := k, tasks := later task.process task.moment }
    else if signaled && moment < task.moment then
      match task.process with
      | .await _ _ next => { kernel := k, tasks := later (next ()) moment }
      | process => { kernel := k, tasks := later process task.moment }
    else
      match task.process with
      | .exit status =>
        { kernel := k.finish task.pid (.exited (status % 256 : Nat)), tasks := others }
      | .step next =>
        let (process, k) := next k
        { kernel := k, tasks := later process moment }
      | .pause duration next =>
        { kernel := spend k task.pid duration, tasks := later (next ()) (moment + duration) }
      | .await _ _ next => { kernel := k, tasks := later (next ()) moment }
      | .fork light child next =>
        let (pid, k) := k.spawn
        let made := moment + forkTime light
        { kernel := k
          tasks :=
            later (next pid) made
              ++ [{ pid := pid, moment := made + startTime light, process := child () }] }

/-- Runs until a condition holds, nothing can go on, or the limit would be passed. -/
def run (stop : Kernel → Bool) (limit : Option Moment) : Nat → Schedule → Schedule
  | 0, s => s
  | fuel + 1, s =>
    if stop s.kernel then s
    else
      match nextTurn s.kernel s.tasks with
      | none => s
      | some (moment, task) =>
        if limit.any (· < moment) then s else run stop limit fuel (s.advance moment task)

end Schedule

end Crosscheck.Shell
