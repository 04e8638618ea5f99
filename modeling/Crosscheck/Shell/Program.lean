import Crosscheck.Shell.Quotation
import Crosscheck.Shell.State
import Crosscheck.Shell.Switches

/-! # Programs

A program gets the name it was started under, its arguments and its environment, and gives its exit
status. It reads and writes the descriptors of the process that runs it.
-/

namespace Crosscheck.Shell

open Act

/-- How a program is started. -/
structure Start where
  name : String
  args : List String := []
  environment : List (String × String) := []

abbrev Program := Start → Act Nat

namespace Start

/-- Whether texts of the environment's language are in an encoding of many bytes. -/
def utf8 (start : Start) : Bool :=
  let chosen := ["LC_ALL", "LC_CTYPE", "LANG"].findSome? fun name =>
    (start.environment.lookup name).filter (!·.isEmpty)
  match chosen with
  | none => false
  | some value =>
    match value.toList with
    | 'C' :: '.' :: encoding =>
      String.ofList ((encoding.filter Char.isAlphanum).map Char.toLower) == "utf8"
    | _ => false

/-- Says something under the name of the program. -/
def say (start : Start) (text : String) : Act Unit :=
  writeText 2 (start.name ++ ": " ++ text ++ "\n")

/-- Says where help is to be had. -/
def hint (start : Start) : Act Unit :=
  writeText 2 ("Try '" ++ start.name ++ " --help' for more information.\n")

/-- Says what is wrong with the arguments; gives the status of a failure. -/
def refuse (start : Start) (text : String) : Act Nat := do
  start.say text
  start.hint
  return 1

/-- A name between the marks of the language. -/
def marked (start : Start) (text : String) : String :=
  Quotation.marked start.utf8 text

/-- A name that a shell could read. -/
def quoted (start : Start) (text : String) : String :=
  Quotation.forShell start.utf8 true text

/-- A name that a shell could read, without quotes if it needs none. -/
def bare (start : Start) (text : String) : String :=
  Quotation.forShell start.utf8 false text

/-- The options and operands of the arguments; nothing if they are wrong, which is said. -/
def options (start : Start) (known : Switches) : Act (Option Switches.Chosen) := do
  match known.parse start.args with
  | ⟨chosen, none⟩ =>
    if chosen.has Switches.help || chosen.has Switches.version then Act.exit 0
    else return some chosen
  | ⟨_, some text⟩ =>
    let _ ← start.refuse text
    return none

end Start

/-- How often a copy loop may go round. -/
def patience : Nat := 10000000

/-- Runs an action for each item; the status is that of the worst. -/
def forAll (items : List String) (action : String → Act Nat) : Act Nat :=
  items.foldlM (fun worst item => return max worst (← action item)) 0

/-- Opens a path for reading on a descriptor of its own. -/
def openInput (path : String) : Act (Except Fault Nat) :=
  step fun k =>
    match k.openPath (Raw.toText path) { reads := true } with
    | (.ok index, k) =>
      let descriptor := k.freeDescriptor 0
      (.ok descriptor, k.connect descriptor index)
    | (.error fault, k) => (.error fault, k)

def closeInput (descriptor : Nat) : Act Unit :=
  change fun k => k.disconnect descriptor

/-! ## Output in blocks -/

/-- Output that has not been written yet. There is space in it once something has been added. -/
structure Buffer where
  pending : Bytes := []
  made : Bool := false

namespace Buffer

def capacity : Nat := 4096

/-- Adds bytes; gives what is to be written now. Whole blocks that do not fit are not kept. -/
def add (buffer : Buffer) (bytes : Bytes) : Bytes × Buffer :=
  let space := if buffer.made then capacity - buffer.pending.length else 0
  if bytes.isEmpty then ([], buffer)
  else if bytes.length ≤ space then ([], ⟨buffer.pending ++ bytes, true⟩)
  else
    let size := bytes.length - (bytes.length - space) % capacity
    (buffer.pending ++ bytes.take size, ⟨bytes.drop size, true⟩)

/-- Adds bytes to the output; the reason if that cannot be done. -/
def put (buffer : Buffer) (bytes : Bytes) : Act (Except String Buffer) := do
  let (now, buffer) := buffer.add bytes
  return (← write 1 now).elim (.ok buffer) .error

/-- Writes what has not been written; the reason if that cannot be done. -/
def flush (buffer : Buffer) : Act (Option String) :=
  write 1 buffer.pending

end Buffer

/-- Says something after all that was to be written before it. -/
def Start.sayAfter (start : Start) (buffer : Buffer) (text : String) : Act Unit := do
  let _ ← buffer.flush
  start.say text

/-- Writes what is left at the end of a program. -/
def Start.close (start : Start) (buffer : Buffer) (status : Nat) : Act Nat := do
  match ← buffer.flush with
  | none => return status
  | some reason =>
    start.say ("write error: " ++ reason)
    return 1

end Crosscheck.Shell
