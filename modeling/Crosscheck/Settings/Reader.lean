import Crosscheck.Disk
import Crosscheck.Error
import Crosscheck.Settings
import Crosscheck.Text.CharClass
import Crosscheck.Yaml.Scalar

/-! # Reading settings

Settings are a document with one mapping. Every field may be left out; a field that is not known, or
given twice, is refused. What is wrong is reported in the order of the text.
-/

namespace Crosscheck.Settings

open Crosscheck.Yaml

/-- Why a text is not settings. -/
inductive ReadError where
  /-- The text is not well formed. -/
  | malformed
  /-- What stands at a place of the text, with its path, does not fit. -/
  | misfit (path : String) (reason : String) (mark : Mark)
  | unknownAnchor (mark : Mark)
  | severalDocuments
  deriving DecidableEq, Repr

namespace ReadError

/-- The place of a fault; the very start of the text is left unsaid. -/
def place (mark : Mark) : String :=
  if mark.line = 0 ∧ mark.column = 0 then ""
  else " at line " ++ toString (mark.line + 1) ++ " column " ++ toString (mark.column + 1)

def message : ReadError → String
  | malformed => "the text is malformed"
  | misfit path reason mark => (if path = "" then "" else path ++ ": ") ++ reason ++ place mark
  | unknownAnchor mark => "unknown anchor" ++ place mark
  | severalDocuments =>
    "deserializing from YAML containing more than one document is not supported"

def ofDefect : Defect → ReadError
  | .malformed => malformed
  | .unknownAnchor mark => unknownAnchor mark

end ReadError

namespace Decode

/-- Reads a value of type `α` at a path from a node. -/
abbrev Decoder (α : Type) := Document → String → Tree → Except ReadError α

/-- Refuses a node where something else is wanted. -/
def refuse {α : Type} (wanted : String) : Decoder α := fun document path node =>
  let found (f : Found) := "invalid type: " ++ f.describe ++ ", expected " ++ wanted
  match node with
  | .scalar mark tag style text => .error (.misfit path (scalarMismatch tag style text wanted) mark)
  | .sequence mark _ => .error (.misfit path (found .sequence) mark)
  | .mapping mark _ => .error (.misfit path (found .mapping) mark)
  | .alias _ | .broken => .error (ReadError.ofDefect (document.defect.getD .malformed))

/-! ## Values -/

/-- The text of any scalar. -/
def text (wanted : String) : Decoder String := fun document path node =>
  match document.follow node with
  | .scalar _ _ _ text => .ok text
  | node => refuse wanted document path node

def string : Decoder String := text "a string"

def path : Decoder String := text "path string"

/-- A whole number of 64 bits, from plain text or a block that is tagged as a number. -/
def word (wanted : String) : Decoder Nat := fun document path node =>
  match document.follow node with
  | .scalar mark tag style text =>
    let readable := style = .plain ||
      (style = .literal && tag == some "tag:yaml.org,2002:int")
    match if readable then Number.unsigned? UInt64.size text.toList else none with
    | some n => .ok n
    | none => refuse wanted document path (.scalar mark tag style text)
  | node => refuse wanted document path node

/-- Whether a node is nothing at all, as after a key without a value. -/
def isVoid : Tree → Bool
  | .scalar _ _ .plain text => text.isEmpty
  | _ => false

/-- Decodes the items of a sequence in turn, after those in `before`, which are last first. -/
def items (item : Decoder String) (document : Document) (path : String) :
    Nat → List String → List Tree → Except ReadError (List String)
  | _, before, [] => .ok before.reverse
  | index, before, node :: rest =>
    match item document (path ++ "[" ++ toString index ++ "]") node with
    | .ok text => items item document path (index + 1) (text :: before) rest
    | .error error => .error error

def sequenceOf (item : Decoder String) : Decoder (List String) := fun document path node =>
  match document.follow node with
  | .sequence _ nodes => items item document path 0 [] nodes
  | node => if isVoid node then .ok [] else refuse "a sequence" document path node

/-! ## Records -/

/-- A record under construction, with the fields that it has been given. -/
structure Draft (α : Type) where
  value : α
  given : List String := []

/-- A field of a record: its name and what its value changes. -/
structure Field (α : Type) where
  name : String
  read : Document → String → Tree → α → Except ReadError α

def field {α β : Type} (name : String) (decoder : Decoder β) (put : β → α → α) : Field α :=
  ⟨name, fun document path node record => (decoder document path node).map (put · record)⟩

/-- The names of fields as a choice. -/
def choice (names : List String) : String :=
  let ticked := names.map fun name => "\x60" ++ name ++ "\x60"
  match ticked with
  | [first, second] => first ++ " or " ++ second
  | _ => "one of " ++ ", ".intercalate ticked

/-- The path of the value under a key. The key is not named if it is no scalar itself. -/
def below (path : String) (key : Tree) : String :=
  let name :=
    match key with
    | .scalar _ _ _ text => text
    | _ => "?"
  if path = "" then name else path ++ "." ++ name

/-- Reads the entries of a mapping in turn. -/
def entries {α : Type} (fields : List (Field α)) (document : Document) (path : String)
    (mark : Mark) : Draft α → List (Tree × Tree) → Except ReadError (Draft α)
  | record, [] => .ok record
  | record, (key, value) :: rest =>
    match document.follow key with
    | .scalar keyMark _ _ name =>
      match fields.find? (·.name == name) with
      | none =>
        let names := fields.map (·.name)
        .error (.misfit path
          ("unknown field \x60" ++ name ++ "\x60, expected " ++ choice names) keyMark)
      | some found =>
        if name ∈ record.given then
          .error (.misfit path ("duplicate field \x60" ++ name ++ "\x60") mark)
        else do
          let value ← found.read document (below path key) value record.value
          entries fields document path mark ⟨value, name :: record.given⟩ rest
    | key => refuse "field identifier" document path key

/-- Reads a record from a mapping, or from nothing at all. `required` names the fields that must be
given. -/
def record {α : Type} (wanted : String) (fields : List (Field α)) (required : List String)
    (default : α) : Decoder α := fun document path node => do
  let (mark, pairs) ←
    match document.follow node with
    | .mapping mark pairs => pure (mark, pairs)
    | .scalar mark tag style text =>
      if isVoid (.scalar mark tag style text) then pure (mark, [])
      else refuse wanted document path (.scalar mark tag style text)
    | node => refuse wanted document path node
  let record ← entries fields document path mark ⟨default, []⟩ pairs
  match required.find? (· ∉ record.given) with
  | some name => .error (.misfit path ("missing field \x60" ++ name ++ "\x60") mark)
  | none => return record.value

/-! ## Settings -/

def tool : Decoder Tool :=
  record "struct ToolConfig"
    [field "program" path fun program tool => { tool with program := program },
      field "args" (sequenceOf string) fun args tool => { tool with args := args }]
    ["program"] ⟨"", []⟩

def layout : Decoder Layout :=
  record "struct CorpusConfig"
    [field "dir" path fun dir layout => { layout with dir := dir },
      field "source_suffix" string fun suffix layout => { layout with sourceSuffix := suffix },
      field "ir_suffix" string fun suffix layout => { layout with irSuffix := suffix },
      field "output_dir" path fun dir layout => { layout with outputDir := dir }]
    [] {}

def settings : Decoder Settings :=
  record "struct HarnessConfig"
    [field "build" tool fun tool s => { s with build := tool },
      field "compiler" path fun file s => { s with compiler := file },
      field "runtime_archive" path fun file s => { s with runtimeArchive := file },
      field "reference" tool fun tool s => { s with reference := tool },
      field "linker" tool fun tool s => { s with linker := tool },
      field "corpus" layout fun layout s => { s with layout := layout },
      field "timeout_secs" (word "u64") fun n s => { s with timeoutSecs := n },
      field "max_output_bytes" (word "usize") fun n s => { s with maxOutputBytes := n },
      field "cases" (sequenceOf string) fun cases s => { s with cases := cases }]
    [] {}

end Decode

/-- Reads settings from a text. A text of white space, or without a document, gives the defaults. -/
def ofText (text : String) : Except ReadError Settings :=
  let chars := text.toList
  if (Text.trim chars).isEmpty then .ok {}
  else do
    let document := Document.ofText chars
    let result ←
      match document.root with
      | none => pure {}
      | some root => Decode.settings document "" root
    match document.defect with
    | some defect => .error (ReadError.ofDefect defect)
    | none => if document.more then .error .severalDocuments else return result

/-- Reads settings from a file. -/
def load (disk : Disk) (path : String) : Except Error Settings :=
  let unreadable := Error.io path "cannot read config file"
  match disk.readFile path with
  | .error fault => .error (unreadable fault.message)
  | .ok content =>
    match Utf8.decode? content with
    | none => .error (unreadable "stream did not contain valid UTF-8")
    | some text => (ofText (String.ofList text)).mapError fun e => .config path e.message

end Crosscheck.Settings
