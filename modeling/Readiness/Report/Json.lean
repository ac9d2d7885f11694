import Readiness.Json.Printer
import Readiness.Time.Stamp
import Readiness.Verdict

/-!
The report for machines: a JSON document with the time, the verdict and all results.
-/

namespace Readiness.Report.Json

open Readiness.Json (Value)

def toolVersion : String := "0.4.0"

def verdictValue (v : Verdict) : Value :=
  .object
    [("passed", .nat v.passed), ("total", .nat v.total),
     ("critical_failures", .nat v.criticalFailures), ("advisories", .nat v.advisories),
     ("can_install", .bool v.canInstall)]

def resultValue (r : CheckResult) : Value :=
  .object
    [("id", .string r.id.key), ("name", .string r.id.name), ("status", .string r.status.name),
     ("class", .string r.reportClass.name), ("passed", .bool r.passed),
     ("critical", .bool r.critical), ("message", .string r.message),
     ("details", .string r.details)]

def document (moment : Time.Stamp) (results : List CheckResult) (v : Verdict) : Value :=
  .object
    [("version", .string toolVersion), ("generated_at", .string moment.rfc3339),
     ("summary", verdictValue v), ("checks", .array (results.map resultValue))]

def text (moment : Time.Stamp) (results : List CheckResult) (v : Verdict) : String :=
  (document moment results v).pretty ++ "\n"

end Readiness.Report.Json
