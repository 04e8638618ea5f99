import Crosscheck.Shell.Program.Table

/-! # Finding programs

A name without a slash is looked for in the directories of a search path. A path leads to a file on
the disk, which must be executable. It is the image of a program, or names its interpreter in its
first line.
-/

namespace Crosscheck.Shell

/-- What a program is. -/
inductive Executable where
  | shell
  /-- Starts another program with a changed environment. -/
  | environment
  | program (run : Program)

/-- A program with its path, the name it is started under and its arguments. -/
structure Launch where
  executable : Executable
  path : String
  name : String
  args : List String

namespace Launch

/-- The search path if none is given. -/
def defaultPath : String :=
  "/usr/local/sbin:/usr/local/bin:/usr/sbin:/usr/bin:/sbin:/bin"

/-- The programs of the machine. -/
def machine : List (String × Executable) :=
  [("sh", .shell), ("dash", .shell), ("env", .environment)]
    ++ Program.all.map fun (name, program) => (name, .program program)

/-- How the image of a program starts. -/
def magic : Bytes := [127, 69, 76, 70]

/-- The content of a file that is a program of the machine. -/
def image (name : String) : Bytes :=
  magic ++ Utf8.encode name

/-- The program whose image a content is. -/
def ofImage? (content : Bytes) : Option Executable :=
  machine.findSome? fun (name, executable) =>
    if content = image name then some executable else none

/-- How much of a file is looked at for its interpreter. -/
def window : Nat := 256

/-- The interpreter and its argument from the first line of a file. -/
def interpreter? (content : Bytes) : Option (String × List String) :=
  match content.take window with
  | 35 :: 33 :: rest =>
    let blank (c : Char) : Bool := c == ' ' || c == '\t'
    let line := Raw.ofBytes (rest.takeWhile (· != 10))
    let body := (line.dropWhile blank).takeWhile (· != '\x00')
    let path := body.takeWhile (fun c => !blank c)
    let cut := rest.length + 2 = window && !rest.contains 10 && path.length = body.length
    let argument := ((body.drop path.length).dropWhile blank).reverse.dropWhile blank |>.reverse
    if path.isEmpty || cut then none
    else some (String.ofList path, if argument.isEmpty then [] else [String.ofList argument])
  | _ => none

/-- What is run for a path, through at most as many interpreters as there is fuel. -/
def ofPath (disk : Disk) : Nat → String → String → List String → Except Fault Launch
  | 0, _, _, _ => .error .tooManyLinks
  | fuel + 1, path, name, args =>
    match disk.stat (Raw.toText path) with
    | .ok (.file content executable) =>
      if !executable then .error .denied
      else
        match interpreter? content, ofImage? content with
        | some (interpreter, argument), _ =>
          ofPath disk fuel interpreter interpreter (argument ++ path :: args)
        | none, some executable => .ok ⟨executable, path, name, args⟩
        | none, none => .error .badFormat
    | .ok _ => .error .denied
    | .error fault => .error fault

/-- How many interpreters may stand behind each other. -/
def depth : Nat := 6

/-- Parts between colons. -/
def atColons (text : List Char) : List (List Char) :=
  text.foldr
    (fun c parts =>
      match parts with
      | first :: rest => if c == ':' then [] :: first :: rest else (c :: first) :: rest
      | [] => [[c]])
    [[]]

/-- The paths that a search path gives for a name. -/
def candidates (searchPath name : String) : List String :=
  (atColons searchPath.toList).map fun place =>
    if place.isEmpty then name else String.ofList place ++ "/" ++ name

/-- The first file of a search path that can be run under a name. What is no such file is passed over;
the last of them tells why there is none. -/
def find (disk : Disk) (searchPath name : String) : Except Fault String :=
  let step (found : Except Fault String) (path : String) : Except Fault String :=
    match found with
    | .ok path => .ok path
    | .error fault =>
      match disk.stat (Raw.toText path) with
      | .ok (.file _ true) => .ok path
      | .ok _ => .error .denied
      | .error .notFound | .error .notDirectory => .error fault
      | .error other => .error other
  (candidates searchPath name).foldl step (.error .notFound)

/-- What is run for a path; a shell can be made to run files that name no interpreter. -/
def runnable (script : Bool) (disk : Disk) (path name : String) (args : List String) :
    Except Fault Launch :=
  match ofPath disk depth path name args with
  | .error .badFormat =>
    if script then .ok ⟨.shell, "/bin/sh", "/bin/sh", path :: args⟩ else .error .badFormat
  | result => result

/-- What is run for a name or a path. Of a search path, directories without such a program are passed
over; another fault than that is kept. -/
def resolve (script : Bool) (disk : Disk) (searchPath name : String) (args : List String) :
    Except Fault Launch :=
  if name.toList.contains '/' then runnable script disk name name args
  else if name.isEmpty then .error .notFound
  else
    (candidates searchPath name).foldl
      (fun result path =>
        match result with
        | .ok launch => .ok launch
        | .error kept =>
          match runnable script disk path name args with
          | .ok launch => .ok launch
          | .error fault =>
            .error (if fault = .notFound || fault = .notDirectory then kept else fault))
      (.error .notFound)

end Launch

end Crosscheck.Shell
