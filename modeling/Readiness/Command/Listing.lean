import Readiness.Command.Transcript
import Readiness.CommandLine.Invocation
import Readiness.Json.Printer

/-!
The command that lists the checks, for people or as JSON.
-/

namespace Readiness

open Json (Value)

/-- Text filled up with blanks to a width. -/
def padRight (width : Nat) (text : String) : String :=
  text ++ String.ofList (List.replicate (width - text.length) ' ')

namespace CheckId

def listingLine (theme : Theme) (id : CheckId) : String :=
  "  " ++ theme.counterText id.position ++ " " ++ theme.highlight.apply (padRight 16 id.key) ++
    " " ++ padRight 28 id.name ++ " " ++
    (if id.isCritical then theme.error.apply "critical" else theme.warning.apply "advisory") ++
    "\n"

def listingValue (id : CheckId) : Value :=
  .object
    [("position", .nat id.position), ("id", .string id.key), ("name", .string id.name),
     ("critical", .bool id.isCritical)]

end CheckId

namespace ListOptions

def ids (o : ListOptions) : List CheckId :=
  CheckId.all.filter fun id => !o.criticalOnly || id.isCritical

def run (o : ListOptions) (env : Environment) : Transcript :=
  let told : List Action :=
    if o.json then [.report ((Value.array (o.ids.map CheckId.listingValue)).pretty ++ "\n")]
    else
      [.header "System requirement checks",
       .report (String.join (o.ids.map (CheckId.listingLine (.ofColor env.colors)))),
       .hint "Critical checks block installation when they fail."]
  { told := told, ending := .ok .success }

end ListOptions
end Readiness
