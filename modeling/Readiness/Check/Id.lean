import Readiness.Text.Blank

/-!
The ten checks, in the order in which they run and are reported.
-/

namespace Readiness

inductive CheckId
  | osVersion
  | elevation
  | databaseDriver
  | nativeRuntime
  | managedRuntime
  | diskSpace
  | databasePath
  | port
  | firewall
  | companionTool
  deriving DecidableEq, Repr, Inhabited

namespace CheckId

def all : List CheckId :=
  [osVersion, elevation, databaseDriver, nativeRuntime, managedRuntime, diskSpace, databasePath,
   port, firewall, companionTool]

/-- The name for machines. -/
def key : CheckId → String
  | osVersion => "os-version"
  | elevation => "elevation"
  | databaseDriver => "database-driver"
  | nativeRuntime => "native-runtime"
  | managedRuntime => "managed-runtime"
  | diskSpace => "disk-space"
  | databasePath => "database-path"
  | port => "port"
  | firewall => "firewall"
  | companionTool => "companion-tool"

/-- The name for people. -/
def name : CheckId → String
  | osVersion => "Operating system version"
  | elevation => "Administrator privileges"
  | databaseDriver => "Visual FoxPro ODBC driver"
  | nativeRuntime => "Visual C++ Redistributable"
  | managedRuntime => ".NET Framework"
  | diskSpace => "Free disk space"
  | databasePath => "Database directory"
  | port => "Port availability"
  | firewall => "Firewall"
  | companionTool => "Companion tool"

/-- Whether a failure of the check blocks the installation. -/
def isCritical : CheckId → Bool
  | osVersion => true
  | elevation => true
  | databaseDriver => true
  | nativeRuntime => true
  | diskSpace => true
  | port => true
  | _ => false

/-- The place in the checklist, counted from one. -/
def position (id : CheckId) : Nat := all.findIdx (· == id) + 1

def parse? (text : String) : Option CheckId :=
  all.find? fun id => Text.eqIgnoringCase id.key text

def unknown (text : String) : String := "unknown check: " ++ text

end CheckId
end Readiness
