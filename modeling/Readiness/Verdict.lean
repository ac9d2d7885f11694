import Readiness.Check.Result

/-!
The verdict over a list of results: their counts, and whether the installation may proceed.
-/

namespace Readiness

structure Verdict where
  passed : Nat
  total : Nat
  criticalFailures : Nat
  advisories : Nat
  canInstall : Bool
  deriving DecidableEq, Repr

namespace Verdict

def count (c : ReportClass) (results : List CheckResult) : Nat :=
  results.countP fun r => r.reportClass == c

/-- The installation may proceed exactly if no result is blocking. -/
def ofResults (results : List CheckResult) : Verdict :=
  { passed := count .passed results
    total := results.length
    criticalFailures := count .blocking results
    advisories := count .advisory results
    canInstall := count .blocking results == 0 }

end Verdict
end Readiness
