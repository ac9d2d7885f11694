import Readiness.Verdict

/-!
The summary of a report, which depends on the verdict alone.
-/

namespace Readiness.Report

structure Summary where
  headline : String
  detail : String
  deriving DecidableEq, Repr

def summary (v : Verdict) : Summary :=
  if v.canInstall then
    ⟨"✓ Ready to Install",
     toString v.passed ++ " of " ++ toString v.total ++
       " checks passed. You can proceed with the installation."⟩
  else
    ⟨"✗ Cannot Install",
     toString v.criticalFailures ++
       " critical requirement(s) not met. Please fix the issues below before proceeding."⟩

end Readiness.Report
