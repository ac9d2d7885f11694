import Readiness.Check.Id
import Readiness.Config.Schema

/-!
Results of checks, and the result that a check has when its host cannot be asked.
-/

namespace Readiness

inductive Status
  | pass
  /-- The condition holds, with something to be said about it. -/
  | warn
  | fail
  deriving DecidableEq, Repr, Inhabited

def Status.name : Status → String
  | pass => "pass"
  | warn => "warn"
  | fail => "fail"

inductive ReportClass
  | passed
  /-- Failed, without blocking the installation. -/
  | advisory
  | blocking
  deriving DecidableEq, Repr, Inhabited

def ReportClass.name : ReportClass → String
  | passed => "passed"
  | advisory => "advisory"
  | blocking => "blocking"

/-- The sign in front of a message. A failure that does not block has the sign of a caveat. -/
def Status.glyph (critical : Bool) : Status → String
  | pass => "✓"
  | warn => "⚠"
  | fail => if critical then "✗" else "⚠"

structure CheckResult where
  id : CheckId
  status : Status
  critical : Bool
  /-- The result in a line, which begins with its sign. -/
  message : String
  details : String
  deriving DecidableEq, Repr, Inhabited

namespace CheckResult

def make (id : CheckId) (status : Status) (message details : String) : CheckResult :=
  ⟨id, status, id.isCritical, status.glyph id.isCritical ++ " " ++ message, details⟩

def pass (id : CheckId) : String → String → CheckResult := make id .pass
def warn (id : CheckId) : String → String → CheckResult := make id .warn
def fail (id : CheckId) : String → String → CheckResult := make id .fail

def passed (r : CheckResult) : Bool := r.status != .fail

def reportClass (r : CheckResult) : ReportClass :=
  if r.passed then .passed else if r.critical then .blocking else .advisory

def isBlocking (r : CheckResult) : Bool := r.reportClass == .blocking

end CheckResult

/-- What is said of a check that could not ask. -/
def CheckId.failureMessage (s : CheckSettings) : CheckId → String
  | osVersion => "Failed to check OS version"
  | elevation => "Failed to check privileges"
  | databaseDriver => "Failed to check VFP ODBC Driver"
  | nativeRuntime => "Failed to check VC++ Redistributable"
  | managedRuntime => "Failed to check .NET Framework"
  | diskSpace => "Failed to check disk space"
  | databasePath => "Cannot access database path"
  | port => "Failed to check port " ++ toString s.port
  | firewall => "Failed to check firewall status"
  | companionTool => "Failed to check " ++ s.companionTool.program ++ " (optional)"

/-- How a check that could not ask counts: as failed, except for the companion tool, and for the
firewall where it is not required. -/
def CheckId.failureStatus (s : CheckSettings) : CheckId → Status
  | firewall => if s.firewallPolicy = .require then .fail else .warn
  | companionTool => .warn
  | _ => .fail

def CheckResult.probeFailed (id : CheckId) (s : CheckSettings) (reason : String) : CheckResult :=
  make id (id.failureStatus s) (id.failureMessage s) reason

end Readiness
