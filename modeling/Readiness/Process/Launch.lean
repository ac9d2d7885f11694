import Readiness.Failure
import Readiness.Text.Utf8

/-!
Running a program under a time limit. What programs do is up to a launcher.
-/

namespace Readiness

/-- A run of a program, as the system sees it. -/
structure Execution where
  lasts : Time.Span := ⟨0, 0⟩
  /-- No code means that a signal ended it. -/
  exitCode : Option Int
  stdout : List UInt8 := []
  stderr : List UInt8 := []
  deriving Repr

/-- The run of a program with some arguments, if it can be started. -/
abbrev Launcher := String → List String → Option Execution

structure Finished where
  exitCode : Option Int
  stdout : String
  stderr : String
  deriving DecidableEq, Repr

namespace Finished

def success (f : Finished) : Bool := f.exitCode == some 0

end Finished

namespace Launcher

/-- A command as messages show it. -/
def shown (program : String) (args : List String) : String := " ".intercalate (program :: args)

def run (launch : Launcher) (program : String) (args : List String) (limit : Option Time.Span) :
    Except Failure Finished :=
  match launch program args with
  | none => .error (.commandFailed (shown program args) none)
  | some e =>
    let ended : Finished := ⟨e.exitCode, Text.Utf8.decodeLossy e.stdout, Text.Utf8.decodeLossy e.stderr⟩
    match limit with
    | none => .ok ended
    | some limit =>
      if limit.toNanos ≤ e.lasts.toNanos then .error (.commandTimedOut (shown program args) limit)
      else .ok ended

end Launcher
end Readiness
