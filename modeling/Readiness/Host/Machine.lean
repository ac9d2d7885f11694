import Readiness.File.System
import Readiness.Host.Ports
import Readiness.Host.Question
import Readiness.Process.Launch
import Readiness.Text.Quoted

/-!
A Unix machine as a host. It has no configuration store; files, sockets and programs are asked of
the system.
-/

namespace Readiness

/-- The hive that keys of the configuration store belong to. -/
def storeHive : String := "HKEY_LOCAL_MACHINE"

/-- What opening a key of the configuration store comes to. A key that is not there is no error. -/
def openedKey {α : Type} (key : String) : Except File.Error α → Except ProbeError (Option α)
  | .ok handle => .ok (some handle)
  | .error .notFound => .ok none
  | .error cause => .error (.io ("Cannot open " ++ storeHive ++ "\\" ++ key) cause.message)

structure Machine where
  files : File.System
  /-- The long name of the system, its version and its kernel. -/
  longName : Option String
  version : Option String
  kernel : Option String
  elevated : Bool
  /-- The free bytes of the volume that holds a path. -/
  freeSpace : Path → Except File.Error UInt64
  launcher : Launcher

namespace Machine

def optionText : Option String → String
  | none => "None"
  | some text => "Some(" ++ Text.quoted text ++ ")"

def osVersion (m : Machine) : Except ProbeError OsVersion :=
  if m.longName.isNone && m.version.isNone && m.kernel.isNone then
    .error (.unavailable "OS version")
  else match OsVersion.assemble m.longName m.version m.kernel with
    | some v => .ok v
    | none => .error (.unreadable (optionText m.version ++ " / " ++ optionText m.kernel))

/-- The error of a path that cannot be looked at. -/
def statError (p : Path) (cause : File.Error) : ProbeError :=
  .io ("Cannot stat " ++ p.text) cause.message

def pathExists (m : Machine) (p : Path) : Except ProbeError Bool :=
  match m.files.kind p with
  | .ok _ => .ok true
  | .error .notFound => .ok false
  | .error cause => .error (statError p cause)

def isDir (m : Machine) (p : Path) : Except ProbeError Bool :=
  match m.files.kind p with
  | .ok kind => .ok (kind == .directory)
  | .error .notFound => .ok false
  | .error cause => .error (statError p cause)

def listDir (m : Machine) (p : Path) : Except ProbeError (List Path) :=
  match m.files.names p with
  | .ok names => .ok (names.map p.join)
  | .error cause => .error (.io ("Cannot list " ++ p.text) cause.message)

/-- The free bytes of the volume of the nearest ancestor that is there. -/
def availableSpace (m : Machine) (p : Path) : Except ProbeError UInt64 :=
  match p.ancestors.find? fun q => !q.isEmpty && m.files.present q with
  | none => .error (.io ("Cannot resolve volume for " ++ p.text) "no existing ancestor")
  | some q =>
    (m.freeSpace q).mapError fun cause => .io ("Cannot query free space on " ++ q.text) cause.message

/-- The kernel's tables of sockets. -/
def socketTables : List Path := [⟨"/proc/net/tcp"⟩, ⟨"/proc/net/tcp6"⟩]

/-- The ports of a table, which may be missing. -/
def tablePorts (m : Machine) (table : Path) : Except ProbeError (Option (List UInt16)) :=
  match m.files.read table with
  | .ok text => .ok (some (Ports.ofKernelTable text))
  | .error .notFound => .ok none
  | .error cause => .error (.io ("Cannot read " ++ table.text) cause.message)

def listeningPorts (m : Machine) : Except ProbeError (List UInt16) := do
  let tables := (← socketTables.mapM m.tablePorts).filterMap id
  if tables.isEmpty then throw (.unavailable "/proc/net/tcp")
  return Ports.ascending tables.flatten

def runTool (m : Machine) (program : String) (args : List String) (limit : Time.Span) :
    Except ProbeError ToolOutput :=
  match m.launcher.run program args (some limit) with
  | .ok finished => .ok ⟨finished.exitCode, finished.stdout⟩
  | .error failure => .error (.ofFailure failure)

def answer (m : Machine) : (q : Question) → Except ProbeError q.Answer
  | .osVersion => m.osVersion
  | .isElevated => .ok m.elevated
  | .storeKey _ => .error (.unavailable "Configuration store")
  | .pathExists p => m.pathExists p
  | .isDir p => m.isDir p
  | .listDir p => m.listDir p
  | .availableSpace p => m.availableSpace p
  | .listeningPorts => m.listeningPorts
  | .runTool program args limit => m.runTool program args limit

def host (m : Machine) : Host := fun q => Reply.ofExcept (m.answer q)

end Machine
end Readiness
