import Readiness.Command.Check
import Readiness.Command.Completion
import Readiness.Command.Listing

/-!
Running a command line that was understood. Without a command the checks are run.
-/

namespace Readiness

namespace Invocation

def verbosity (i : Invocation) : Verbosity :=
  if i.quiet then .quiet else if i.verbose then .verbose else .normal

/-- Runs the command on a console of the given verbosity. -/
def run (i : Invocation) (env : Environment) (given : Verbosity) : Transcript :=
  match i.command with
  | none => ({} : CheckOptions).run env given i.config
  | some (.check options) => options.run env given i.config
  | some (.list options) => options.run env
  | some (.completions shell) => shell.run

end Invocation

/-- The variables that the services set that build and test programs. -/
def ciVariables : List String :=
  ["CI", "GITHUB_ACTIONS", "GITLAB_CI", "CIRCLECI", "TRAVIS", "JENKINS_URL"]

/-- Whether a run is part of a build, given which variables are set, to whatever value. -/
def inCi (isSet : String → Bool) : Bool := ciVariables.any isSet

end Readiness
