import Readiness.Report.Summary
import Readiness.Terminal.Theme

/-!
The report for people, line by line: a head, an entry for every result, and a note where failures
do not block.
-/

namespace Readiness.Report.Human

/-- The five lines in front of the entries. -/
def head (theme : Theme) (v : Verdict) : List String :=
  let summary := Report.summary v
  let style := if v.canInstall then theme.success else theme.error
  [theme.headerLine "System Requirements Check", "", style.apply summary.headline, summary.detail,
   ""]

def messageStyle (theme : Theme) (r : CheckResult) : Style :=
  if r.status = .warn then theme.warning else theme.ofClass r.reportClass

/-- The line of a result, and that of its details if it has any. -/
def entry (theme : Theme) (r : CheckResult) : List String :=
  ("  " ++ theme.counterText r.id.position ++ " " ++ (messageStyle theme r).apply r.message) ::
    if r.details.isEmpty then [] else ["       " ++ theme.dim.apply r.details]

def note (theme : Theme) (v : Verdict) : List String :=
  if 0 < v.advisories then
    ["", theme.hint.apply (toString v.advisories ++
      " advisory issue(s) found; installation can still proceed.")]
  else []

def lines (theme : Theme) (results : List CheckResult) (v : Verdict) : List String :=
  head theme v ++ results.flatMap (entry theme) ++ note theme v

def text (theme : Theme) (results : List CheckResult) (v : Verdict) : String :=
  String.join ((lines theme results v).map (· ++ "\n"))

end Readiness.Report.Human
