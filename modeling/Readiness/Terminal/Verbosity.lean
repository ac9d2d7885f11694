/-!
How much a run shows besides its report.
-/

namespace Readiness

inductive Verbosity
  /-- Progress, status, and a line for every check. -/
  | verbose
  /-- Progress and status. -/
  | normal
  /-- Progress alone. -/
  | quiet
  /-- Nothing but errors. -/
  | silent
  deriving DecidableEq, Repr, Inhabited

namespace Verbosity

def all : List Verbosity := [verbose, normal, quiet, silent]

def name : Verbosity → String
  | verbose => "verbose"
  | normal => "normal"
  | quiet => "quiet"
  | silent => "silent"

def parse? (text : String) : Option Verbosity :=
  all.find? fun verbosity => verbosity.name == text.toLower

def unknown (text : String) : String := "unknown output mode: " ++ text

def showsCheckProgress : Verbosity → Bool
  | verbose => true
  | _ => false

def showsSpinners : Verbosity → Bool
  | silent => false
  | _ => true

def showsStatus : Verbosity → Bool
  | verbose => true
  | normal => true
  | _ => false

end Verbosity
end Readiness
