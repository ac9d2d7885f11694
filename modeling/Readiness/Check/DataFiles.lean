import Readiness.Host.Probe
import Readiness.Text.Blank

/-!
The data files in the directory of a database.
-/

namespace Readiness

/-- Whether a path has the extension of the database's tables, in either case. -/
def Path.isDataFile (p : Path) : Bool :=
  p.extension?.any fun ext => Text.eqIgnoringCase (String.ofList ext) "dbf"

/-- The number of data files among entries. An entry counts unless it is known for a directory. -/
def countDataFiles : List Path → Probe Nat
  | [] => return 0
  | entry :: rest => do
    if entry.isDataFile then
      match ← Probe.query (.isDir entry) with
      | .ok true => countDataFiles rest
      | _ => return (← countDataFiles rest) + 1
    else countDataFiles rest

end Readiness
