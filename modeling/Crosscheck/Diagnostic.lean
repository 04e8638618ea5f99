import Crosscheck.Error
import Crosscheck.Text.Wrap

/-! # Error reports

An error is shown as its code, the message, the cause if the system named one, and advice if there
is some.
-/

namespace Crosscheck.Error

/-- The lines of the report. -/
def reportLines (error : Error) : List String :=
  let cause := match error.cause? with
    | some text => Text.wrap "  ╰─▶ " "      " text
    | none => []
  let help := match error.help? with
    | some text => Text.wrap "  help: " "        " text
    | none => []
  [error.code, ""] ++ Text.wrap "  × " "  │ " error.message ++ cause ++ help

def report (error : Error) : String :=
  String.join (error.reportLines.map (· ++ "\n"))

end Crosscheck.Error
