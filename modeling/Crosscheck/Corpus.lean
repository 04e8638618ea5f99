import Crosscheck.Disk
import Crosscheck.Error
import Crosscheck.Settings

/-! # The corpus

A test case is a program in the corpus directory together with the files made from it. `discover`
finds the programs that are there; `resolve` turns requested names into cases and refuses a name
that occurs twice or has no source.
-/

namespace Crosscheck

/-- A program and the files derived from its name. -/
structure TestCase where
  name : String
  source : String
  ir : String
  executable : String
  deriving DecidableEq, Repr

namespace Layout

/-- The case of a name under the naming convention. -/
def testCase (layout : Layout) (name : String) : TestCase where
  name := name
  source := Path.join layout.dir (name ++ "." ++ layout.sourceSuffix)
  ir := Path.join layout.dir (name ++ "." ++ layout.irSuffix)
  executable := Path.direct (Path.join layout.outputDir name)

/-- The name of the program in a directory entry, if the entry is a source file. -/
def programName? (layout : Layout) : String × Node → Option String
  | (name, .file _ _) =>
    match Path.splitExtension name with
    | (stem, some ext) => if ext = layout.sourceSuffix then some stem else none
    | (_, none) => none
  | _ => none

/-- The names of all programs in the corpus directory, in order. -/
def discover (layout : Layout) (disk : Disk) : Except Error (List String) :=
  match disk.stat layout.dir with
  | .error fault =>
    .error (.discovery layout.dir
      ("IO error for operation on " ++ layout.dir ++ ": " ++ fault.message))
  | .ok (.directory _) =>
    match disk.readDir layout.dir with
    | .error fault =>
      .error (.discovery layout.dir
        ("IO error for operation on " ++ layout.dir ++ ": " ++ fault.message))
    | .ok entries =>
      .ok ((entries.filterMap layout.programName?).mergeSort (fun a b => decide (a ≤ b)))
  | .ok _ => .ok []

/-- Cases for the names, `seen` being the names before them. -/
def resolveFrom (layout : Layout) (disk : Disk) :
    List String → List String → Except Error (List TestCase)
  | _, [] => .ok []
  | seen, name :: rest =>
    if name ∈ seen then .error (.duplicateName name)
    else if disk.isFile (layout.testCase name).source then
      match resolveFrom layout disk (name :: seen) rest with
      | .ok cases => .ok (layout.testCase name :: cases)
      | .error error => .error error
    else .error (.unknownCase name (layout.testCase name).source)

/-- The cases of the requested names. -/
def resolve (layout : Layout) (disk : Disk) (names : List String) :
    Except Error (List TestCase) :=
  layout.resolveFrom disk [] names

end Layout

end Crosscheck
