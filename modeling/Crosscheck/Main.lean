import Crosscheck.Machine
import Crosscheck.Reaction

/-! # The command line

The working directory is read into a disk, the program responds to its words on the machine, and
what it changed is written back.
-/

namespace Crosscheck.Main

/-- The path of a location. -/
def fullPath (place : Location) : String :=
  "/" ++ "/".intercalate place

/-- A file that names its interpreter counts as executable. -/
def readNode (content : Bytes) : Node :=
  .file content (Shell.Launch.interpreter? content).isSome

/-- Adds directory entries, and what is below them, to a disk. -/
partial def readEntries (place : Location) (entries : Array IO.FS.DirEntry) (disk : Disk) :
    IO Disk := do
  let mut disk := disk
  for entry in entries do
    let here := place ++ [entry.fileName]
    match (← entry.path.metadata).type with
    | .dir => disk ← readEntries here (← entry.path.readDir) (disk.set here (.directory true))
    | .file => disk := disk.set here (readNode (← IO.FS.readBinFile entry.path).toList)
    | _ => pure ()
  return disk

/-- The disk below the working directory. -/
def readDisk : IO Disk := do
  let path ← IO.currentDir
  let place := (Path.segments path.toString).filter (· != "")
  let above := (List.range place.length).foldl
    (fun (disk : Disk) n => disk.set (place.take (n + 1)) (.directory true)) ⟨[], place, by simp⟩
  readEntries place (← path.readDir) above

/-- What programs look at in the environment. -/
def readEnvironment : IO Machine.Environment := do
  let names := ["HOME", "PATH", "LC_ALL", "LC_CTYPE", "LANG", "NO_COLOR"]
  names.filterMapM fun name => return (← IO.getEnv name).map fun value => (name, value)

/-- Makes the changes between two disks. -/
def writeChanges (before after : Disk) : IO Unit := do
  for (place, node) in after.entries.reverse do
    if before.node? place != some node then
      match node with
      | .directory _ => IO.FS.createDirAll (fullPath place)
      | .file content _ => IO.FS.writeBinFile (fullPath place) ⟨content.toArray⟩
      | .link _ | .device _ | .stream _ => pure ()
  for (place, node) in before.entries do
    if (after.node? place).isNone && !node.isDirectory then IO.FS.removeFile (fullPath place)

end Crosscheck.Main

open Crosscheck Crosscheck.Main in
def main (words : List String) : IO UInt32 := do
  let disk ← readDisk
  let (display, after) := respond (Machine.runner (← readEnvironment)) words () disk
  writeChanges disk after
  IO.print display.stdout
  IO.eprint display.stderr
  return UInt32.ofNat display.status
