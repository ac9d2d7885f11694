/-!
The formats in which a report can be written.
-/

namespace Readiness

inductive ReportFormat
  | human
  | json
  | html
  deriving DecidableEq, Repr, Inhabited

namespace ReportFormat

def all : List ReportFormat := [human, json, html]

def name : ReportFormat → String
  | human => "human"
  | json => "json"
  | html => "html"

def parse? (text : String) : Option ReportFormat :=
  all.find? fun format => format.name == text.toLower

def unknown (text : String) : String := "unknown report format: " ++ text

end ReportFormat
end Readiness
