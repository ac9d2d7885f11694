import Readiness.File.Error
import Readiness.Path
import Readiness.Time.Span

/-!
Why a run stops without a report. What goes wrong inside a check is no failure of the run: it
becomes the result of that check.
-/

namespace Readiness

inductive Failure
  | configNotFound (path : Path)
  /-- The text of a configuration file is malformed, or does not fit its fields. -/
  | configMisread (path : Path) (message : String)
  | configInvalid (message : String)
  /-- A program did not start, or ended with a code other than zero. -/
  | commandFailed (command : String) (code : Option Int)
  | commandTimedOut (command : String) (limit : Time.Span)
  | renderFailed (format message : String)
  | file (cause : File.Error)
  | other (text : String)
  deriving DecidableEq, Repr

namespace Failure

/-- What is said of a text that breaks the rules of its format. -/
def malformedText : String := "malformed document"

/-- An exit code, which a program that was killed does not have. -/
def codeText : Option Int → String
  | none => "None"
  | some code => "Some(" ++ toString code ++ ")"

def message : Failure → String
  | configNotFound path => "Configuration not found: " ++ path.text
  | configMisread path message => "Failed to parse config at " ++ path.text ++ ": " ++ message
  | configInvalid message => "Invalid configuration: " ++ message
  | commandFailed command code =>
    "Command failed with exit code " ++ codeText code ++ ": " ++ command
  | commandTimedOut command limit => "Command timed out after " ++ limit.text ++ ": " ++ command
  | renderFailed format message => "Failed to render " ++ format ++ " report: " ++ message
  | file cause => "IO error: " ++ cause.message
  | other text => text

end Failure
end Readiness
