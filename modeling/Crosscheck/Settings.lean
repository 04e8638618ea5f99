/-! # Settings

Which programs the harness runs, where the corpus lies and what bounds apply.
-/

namespace Crosscheck

/-- A program with the arguments that always come first. -/
structure Tool where
  program : String
  args : List String := []
  deriving DecidableEq, Repr

/-- How the files of a corpus are named. -/
structure Layout where
  dir : String := "tests"
  sourceSuffix : String := "scheme"
  irSuffix : String := "ll"
  outputDir : String := "."
  deriving DecidableEq, Repr

structure Settings where
  build : Tool := ⟨"cargo", ["build"]⟩
  compiler : String := "target/debug/compilisp"
  runtimeArchive : String := "target/debug/libruntime.a"
  reference : Tool := ⟨"scheme", ["--quiet"]⟩
  linker : Tool := ⟨"clang", []⟩
  layout : Layout := {}
  /-- Zero means no limit. -/
  timeoutSecs : Nat := 30
  maxOutputBytes : Nat := 16 * 1024 * 1024
  cases : List String :=
    ["one_plus_two", "begin_01", "let_sum", "let_nested", "conditional", "conditional_many",
      "conditional_display", "define_expr_01", "define_procedure_01", "define_procedure_02"]
  deriving DecidableEq, Repr

namespace Settings

/-- The time limit of a process, in seconds. -/
def timeout? (settings : Settings) : Option Nat :=
  if settings.timeoutSecs = 0 then none else some settings.timeoutSecs

/-- The files the build must produce. -/
def artifacts (settings : Settings) : List String :=
  [settings.compiler, settings.runtimeArchive]

end Settings

/-- Settings given on the command line. -/
structure Overrides where
  corpusDir : Option String := none
  compiler : Option String := none
  runtime : Option String := none
  reference : Option String := none
  linker : Option String := none
  timeout : Option Nat := none
  deriving DecidableEq, Repr

/-- Settings with the given values put over them. For a tool only the program changes. -/
def Overrides.apply (o : Overrides) (s : Settings) : Settings :=
  { s with
    layout := { s.layout with dir := o.corpusDir.getD s.layout.dir }
    compiler := o.compiler.getD s.compiler
    runtimeArchive := o.runtime.getD s.runtimeArchive
    reference := { s.reference with program := o.reference.getD s.reference.program }
    linker := { s.linker with program := o.linker.getD s.linker.program }
    timeoutSecs := o.timeout.getD s.timeoutSecs }

end Crosscheck
