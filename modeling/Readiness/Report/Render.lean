import Readiness.Report.Format
import Readiness.Report.Html
import Readiness.Report.Human
import Readiness.Report.Json

/-!
Reports in any format.
-/

namespace Readiness.Report

/-- The report in a format. Colour matters to the report for people alone, and the time to the one
for machines. -/
def render (format : ReportFormat) (useColor : Bool) (now : Time.Stamp)
    (results : List CheckResult) (v : Verdict) : String :=
  match format with
  | .human => Human.text (.ofColor useColor) results v
  | .json => Json.text now results v
  | .html => Html.text Html.defaultTitle results v

section Formats

variable (useColor : Bool) (now : Time.Stamp) (results : List CheckResult) (v : Verdict)

@[simp] theorem render_human :
    render .human useColor now results v = Human.text (.ofColor useColor) results v := rfl

@[simp] theorem render_json : render .json useColor now results v = Json.text now results v := rfl

@[simp] theorem render_html :
    render .html useColor now results v = Html.text Html.defaultTitle results v := rfl

end Formats

end Readiness.Report
