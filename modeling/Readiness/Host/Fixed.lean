import Readiness.Host.Question
import Readiness.Host.StoreKeys

/-!
A host whose answers are set in advance. Paths are told apart by their components, so that every
spelling of a path has the same answers.
-/

namespace Readiness

structure FixedHost where
  os : Except ProbeError OsVersion
  elevated : Except ProbeError Bool
  keys : List (String × Except ProbeError StoreKey)
  files : List Path
  dirs : List (Path × Except ProbeError (List Path))
  space : Except ProbeError UInt64
  ports : Except ProbeError (List UInt16)
  tools : List (String × Except ProbeError ToolOutput)

namespace FixedHost

/-- A bare host: an old system, no rights, an empty store, no files, no space, no listeners and no
tools. -/
def bare : FixedHost where
  os := .ok ⟨"Unknown 0.0", 0, 0, 0⟩
  elevated := .ok false
  keys := []
  files := []
  dirs := []
  space := .ok 0
  ports := .ok []
  tools := []

section Table

variable {κ ν : Type} (same : κ → κ → Bool)

def find? (key : κ) (table : List (κ × ν)) : Option ν :=
  (table.find? fun (other, _) => same other key).map (·.2)

def put (key : κ) (value : ν) : List (κ × ν) → List (κ × ν)
  | [] => [(key, value)]
  | (other, old) :: rest =>
    if same other key then (other, value) :: rest else (other, old) :: put key value rest

def remove (key : κ) (table : List (κ × ν)) : List (κ × ν) :=
  table.filter fun (other, _) => !same other key

end Table

/-- A system of this description; without a dotted number it has the version 0.0. -/
def withOsVersion (description : String) (h : FixedHost) : FixedHost :=
  { h with os := .ok ((OsVersion.parse description).getD ⟨description, 0, 0, 0⟩) }

def withOsError (e : ProbeError) (h : FixedHost) : FixedHost := { h with os := .error e }

def withElevated (elevated : Bool) (h : FixedHost) : FixedHost := { h with elevated := .ok elevated }

def withElevationError (e : ProbeError) (h : FixedHost) : FixedHost :=
  { h with elevated := .error e }

/-- A value under a key, which is made if it is not there or cannot be read. -/
def withStoreValue (key name : String) (value : StoreValue) (h : FixedHost) : FixedHost :=
  let old : StoreKey := match find? (· == ·) key h.keys with
    | some (.ok k) => k
    | _ => {}
  { h with keys := put (· == ·) key (.ok (old.insert name value)) h.keys }

/-- A key without values, unless the store says something of it. -/
def withStoreKey (key : String) (h : FixedHost) : FixedHost :=
  match find? (· == ·) key h.keys with
  | some _ => h
  | none => { h with keys := put (· == ·) key (.ok {}) h.keys }

def withoutStoreKey (key : String) (h : FixedHost) : FixedHost :=
  { h with keys := remove (· == ·) key h.keys }

def withStoreError (key : String) (e : ProbeError) (h : FixedHost) : FixedHost :=
  { h with keys := put (· == ·) key (.error e) h.keys }

def withFile (p : Path) (h : FixedHost) : FixedHost :=
  if h.files.any p.same then h else { h with files := h.files ++ [p] }

/-- A directory with entries of these names. -/
def withDir (p : Path) (entries : List String) (h : FixedHost) : FixedHost :=
  { h with dirs := put Path.same p (.ok (entries.map p.join)) h.dirs }

def withUnreadableDir (p : Path) (e : ProbeError) (h : FixedHost) : FixedHost :=
  { h with dirs := put Path.same p (.error e) h.dirs }

def withSpace (bytes : UInt64) (h : FixedHost) : FixedHost := { h with space := .ok bytes }

def withSpaceError (e : ProbeError) (h : FixedHost) : FixedHost := { h with space := .error e }

def withListener (port : UInt16) (h : FixedHost) : FixedHost :=
  { h with ports := h.ports.map (· ++ [port]) }

def withPortsError (e : ProbeError) (h : FixedHost) : FixedHost := { h with ports := .error e }

def withTool (program : String) (output : ToolOutput) (h : FixedHost) : FixedHost :=
  { h with tools := put (· == ·) program (.ok output) h.tools }

def withToolError (program : String) (e : ProbeError) (h : FixedHost) : FixedHost :=
  { h with tools := put (· == ·) program (.error e) h.tools }

def withoutTool (program : String) (h : FixedHost) : FixedHost :=
  { h with tools := remove (· == ·) program h.tools }

/-- The database driver of a healthy host. -/
def healthyDriver : String := "C:\\Windows\\SysWOW64\\vfpodbc.dll"

/-- The free bytes of a healthy host: ten gibibytes. -/
def healthySpace : UInt64 := 10 * 1024 * 1024 * 1024

def healthy : FixedHost :=
  let driverKey := StoreKeys.driver.headD ""
  let runtimeKey := StoreKeys.nativeRuntime.headD ""
  bare
    |>.withOsVersion "Microsoft Windows [Version 10.0.19045.3803]"
    |>.withElevated true
    |>.withStoreValue driverKey "Driver" (.text healthyDriver)
    |>.withFile ⟨healthyDriver⟩
    |>.withStoreValue runtimeKey "Installed" (.number 1)
    |>.withStoreValue runtimeKey "Version" (.text "v14.38.33135.00")
    |>.withStoreValue StoreKeys.managedRuntime "Release" (.number 528040)
    |>.withStoreValue StoreKeys.firewall "EnableFirewall" (.number 1)
    |>.withSpace healthySpace
    |>.withTool "cloudflared" (.ok "cloudflared version 2024.6.1\n")

def storeKey (key : String) (h : FixedHost) : Except ProbeError (Option StoreKey) :=
  match find? (· == ·) key h.keys with
  | some (.ok k) => .ok (some k)
  | some (.error e) => .error e
  | none => .ok none

def isDir (p : Path) (h : FixedHost) : Bool := (find? Path.same p h.dirs).isSome

def pathExists (p : Path) (h : FixedHost) : Bool := h.files.any p.same || h.isDir p

def listDir (p : Path) (h : FixedHost) : Except ProbeError (List Path) :=
  (find? Path.same p h.dirs).getD (.error (.io ("Cannot list " ++ p.text) "directory not found"))

/-- What running a program gives; a program that is not there does not start. -/
def runTool (program : String) (h : FixedHost) : Except ProbeError ToolOutput :=
  (find? (· == ·) program h.tools).getD
    (.error (.ofFailure (.commandFailed program none)))

def answer (h : FixedHost) : (q : Question) → Except ProbeError q.Answer
  | .osVersion => h.os
  | .isElevated => h.elevated
  | .storeKey key => h.storeKey key
  | .pathExists p => .ok (h.pathExists p)
  | .isDir p => .ok (h.isDir p)
  | .listDir p => h.listDir p
  | .availableSpace _ => h.space
  | .listeningPorts => h.ports
  | .runTool program _ _ => h.runTool program

def host (h : FixedHost) : Host := fun q => Reply.ofExcept (h.answer q)

end FixedHost
end Readiness
