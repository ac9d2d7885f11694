import Readiness.Failure

/-!
Why a question to the host has no answer.
-/

namespace Readiness

inductive ProbeError
  /-- The host cannot tell. -/
  | unavailable (fact : String)
  | io (context message : String)
  /-- A program that was to help failed. -/
  | command (text : String)
  | timeout (program : String) (limit : Time.Span)
  /-- An answer that makes no sense. -/
  | unreadable (text : String)
  deriving DecidableEq, Repr

namespace ProbeError

def message : ProbeError → String
  | unavailable fact => fact ++ " is not available on this platform"
  | io context message => context ++ ": " ++ message
  | command text => text
  | timeout program limit => program ++ " did not respond within " ++ limit.text
  | unreadable text => "Unexpected output: " ++ text

def ofFailure : Failure → ProbeError
  | .commandTimedOut program limit => .timeout program limit
  | failure => .command failure.message

end ProbeError
end Readiness
