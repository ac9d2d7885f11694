import Readiness.Config.Sources
import Readiness.Host.Question
import Readiness.Terminal.Console
import Readiness.Time.Stamp

/-!
What a command finds around it, and the record of what it does: what it tells the user, the files
it writes, and how it ends.
-/

namespace Readiness

/-- What a command depends on besides its options. -/
structure Environment where
  surroundings : Config.Surroundings
  root : Path
  host : Host
  colors : Bool
  now : Time.Stamp

inductive Exit
  | success
  /-- The report has a blocking result. -/
  | notInstallable
  /-- The configuration cannot be loaded or breaks a rule. -/
  | configError
  /-- The command could not be carried out. -/
  | runtimeError
  deriving DecidableEq, Repr

def Exit.code : Exit → Nat
  | success => 0
  | notInstallable => 1
  | configError => 2
  | runtimeError => 3

structure Transcript where
  told : List Action := []
  written : List (Path × String) := []
  ending : Except Failure Exit

namespace Transcript

/-- The transcript with the failure told, and the code that stands for it. -/
def finish (t : Transcript) : List Action × Exit :=
  match t.ending with
  | .ok exit => (t.told, exit)
  | .error failure => (t.told ++ [.error ("Error: " ++ failure.message)], .runtimeError)

end Transcript
end Readiness
