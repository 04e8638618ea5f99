import Crosscheck.Changes
import Crosscheck.Number.Binary64
import Crosscheck.Tally
import Crosscheck.Text.Escaped
import Crosscheck.Text.Excerpt

/-! # The report of a run

A report is a list of fragments: text, and changes of colour. `plain` shows the text alone and `ansi`
writes the colours as terminal sequences.
-/

namespace Crosscheck

inductive Paint where
  | none
  | green
  | red
  | bold
  | dimmed
  deriving DecidableEq, Repr

inductive Fragment where
  | text (text : String)
  | paint (paint : Paint)
  | reset
  deriving DecidableEq, Repr

namespace Fragment

/-- The text of a line, ended by a newline. -/
def line (text : String) : Fragment :=
  .text (text ++ "\n")

def plain : Fragment → String
  | text s => s
  | paint _ | reset => ""

/-- Switching a colour on starts from a clean state. -/
def ansi : Fragment → String
  | text s => s
  | paint .none | reset => "\x1b[0m"
  | paint .green => "\x1b[0m\x1b[32m"
  | paint .red => "\x1b[0m\x1b[31m"
  | paint .bold => "\x1b[0m\x1b[1m"
  | paint .dimmed => "\x1b[0m\x1b[2m"

end Fragment

namespace Report

def plain (fragments : List Fragment) : String :=
  String.join (fragments.map Fragment.plain)

def ansi (fragments : List Fragment) : String :=
  String.join (fragments.map Fragment.ansi)

/-! ## A case -/

/-- How much of a process's diagnostics is shown, in bytes. -/
def stderrShown : Nat := 2048

def stageFailure (failure : StageFailure) : List Fragment :=
  let head := Fragment.line ("    " ++ failure.message)
  if failure.stderr = [] then [head]
  else
    let text := String.ofList (Utf8.decodeLossy failure.stderr)
    let shown := (Text.excerpt? stderrShown text).getD ""
    let left := text.utf8ByteSize - shown.utf8ByteSize
    [head, .paint .dimmed]
      ++ (Text.lines shown.toList).map (fun line => Fragment.line ("    | " ++ String.ofList line))
      ++ (if left = 0 then []
          else [Fragment.line ("    | ... (" ++ toString left ++ " more bytes)")])
      ++ [.reset]

def signPaint : Changes.Sign → Paint
  | .kept => .none
  | .removed => .red
  | .added => .green

def signChar : Changes.Sign → Char
  | .kept => ' '
  | .removed => '-'
  | .added => '+'

def changeLine (sign : Changes.Sign) (line : List Char) : Fragment :=
  .line (String.ofList ("    ".toList ++ signChar sign :: line))

/-- A block of changes, line by line. -/
def changeBlock (block : Changes.Block) : List Fragment :=
  [.paint (signPaint block.sign)]
    ++ (Text.pieces block.text).map (changeLine block.sign) ++ [.reset]

/-- Both outputs side by side. Lines hide differences in the last newline and in bytes that are no
text, so the bytes are shown too. -/
def mismatch (expected actual : Bytes) : List Fragment :=
  let changes := Changes.between (Utf8.decodeLossy expected) (Utf8.decodeLossy actual)
  [.line "    --- reference (expected)", .line "    +++ compiled (actual)"]
    ++ (changes.getD []).flatMap changeBlock
    ++ [.line ("    expected bytes: " ++ String.ofList (Text.escape expected)),
        .line ("    actual bytes:   " ++ String.ofList (Text.escape actual))]

/-- The line that says how a case went. -/
def header (name : String) (kind : Kind) : List Fragment :=
  if kind = .pass then [.paint .green, .text "✓", .reset, .line (" " ++ name)]
  else [.paint .red, .text "✗", .reset, .line (" " ++ name ++ " (" ++ kind.name ++ ")")]

def details : Verdict → List Fragment
  | .pass => []
  | .failed _ failure => stageFailure failure
  | .mismatch expected actual => mismatch expected actual

def outcome (outcome : Outcome) : List Fragment :=
  header outcome.name outcome.verdict.kind ++ details outcome.verdict

/-! ## The summary -/

/-- The share of passes in percent, with one decimal place. -/
def rateText (tally : Tally) : String :=
  match Number.Binary64.ofFloat? tally.successRate with
  | some rate => rate.oneDecimal
  | none => "NaN"

def summary (tally : Tally) : List Fragment :=
  [.line "", .paint .bold, .line "Test Summary", .reset, .line "════════════"]
    ++ (if tally.passed = 0 then []
        else [.paint .green, .line ("✓ Passed: " ++ toString tally.passed), .reset])
    ++ (if tally.failed = 0 then []
        else
          [.paint .red, .line ("✗ Failed: " ++ toString tally.failed), .reset]
            ++ tally.byKind.map fun (kind, count) =>
              Fragment.line ("    " ++ kind.name ++ ": " ++ toString count))
    ++ [.paint .bold,
        .line ("Success rate: " ++ rateText tally ++ "% (" ++ toString tally.passed ++ "/"
          ++ toString tally.total ++ ")"),
        .reset]

end Report

end Crosscheck
