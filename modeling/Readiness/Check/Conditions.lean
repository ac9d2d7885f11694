import Readiness.Check.Candidates
import Readiness.Check.DataFiles
import Readiness.Check.Result
import Readiness.Host.StoreKeys

/-!
The conditions of the ten checks. Each check asks the host and answers with one result; a question
that fails becomes the check's own result for that case.
-/

namespace Readiness.Check

variable (s : CheckSettings)

/-- The result of a check that needs the answer to one question. -/
def asking (id : CheckId) (q : Question) (judge : q.Answer → CheckResult) : Probe CheckResult := do
  match ← Probe.query q with
  | .ok answer => return judge answer
  | .error e => return .probeFailed id s e.message

def osVersion : Probe CheckResult :=
  asking s .osVersion .osVersion fun version =>
    if s.minOsMajor ≤ version.major then
      .pass .osVersion ("OS version: " ++ version.description) "Supported OS version detected"
    else
      .fail .osVersion "Unsupported OS version"
        ("Current: " ++ version.description ++ ". Required: major version " ++
          toString s.minOsMajor ++ " or later (Windows 10 / Windows Server 2019+)")

def elevation : Probe CheckResult :=
  asking s .elevation .isElevated fun elevated =>
    if elevated then
      .pass .elevation "Running as Administrator" "Installer has required privileges"
    else
      .fail .elevation "Not running as Administrator" "Please run the installer as root"

/-- The registered driver, if a file is where it should be. -/
def acceptDriver (values : StoreKey) : Probe (Option String) := do
  match values.text? "Driver" with
  | none => return none
  | some driver =>
    if driver.isEmpty then return none
    match ← Probe.query (.pathExists ⟨driver⟩) with
    | .ok true => return some driver
    | _ => return none

def databaseDriver : Probe CheckResult := do
  match ← Search.scan StoreKeys.driver fun _ => acceptDriver with
  | .found driver =>
    return .pass .databaseDriver "Visual FoxPro ODBC Driver installed" ("Driver found: " ++ driver)
  | .notFound =>
    return .fail .databaseDriver "Visual FoxPro ODBC Driver NOT found"
      "Download from: https://www.microsoft.com/en-us/download/details.aspx?id=14839"
  | .failed e => return .probeFailed .databaseDriver s e.message

/-- The version of a runtime that says it is installed. -/
def acceptRuntime (values : StoreKey) : Probe (Option String) :=
  return if values.number? "Installed" = some 1 then some ((values.text? "Version").getD "Unknown")
    else none

def nativeRuntime : Probe CheckResult := do
  match ← Search.scan StoreKeys.nativeRuntime fun _ => acceptRuntime with
  | .found version =>
    return .pass .nativeRuntime "Visual C++ Redistributable installed" ("Version: " ++ version)
  | .notFound =>
    return .fail .nativeRuntime "Visual C++ Redistributable NOT found"
      "Download VC++ 2015-2022 x64 from: https://aka.ms/vs/17/release/vc_redist.x64.exe"
  | .failed e => return .probeFailed .nativeRuntime s e.message

def managedRuntime : Probe CheckResult :=
  asking s .managedRuntime (.storeKey StoreKeys.managedRuntime) fun
    | none =>
      .fail .managedRuntime ".NET Framework not detected" "Recommended for installer components"
    | some values =>
      let release := (values.number? "Release").getD 0
      if s.minManagedRelease ≤ release then
        .pass .managedRuntime ".NET Framework 4.7.2+ installed" ("Release: " ++ toString release)
      else
        .fail .managedRuntime ".NET Framework 4.7.2+ recommended"
          "Some features may not work properly"

def mebibyte : Nat := 1024 * 1024

def maxBytes : Nat := UInt64.size - 1

/-- The directory whose volume is measured where the settings name none. -/
def defaultInstallDir : Path := ⟨"/opt"⟩

def requiredBytes : Nat := min (s.minFreeSpaceMb.toNat * mebibyte) maxBytes

def diskSpace : Probe CheckResult :=
  asking s .diskSpace (.availableSpace (s.installDir.getD defaultInstallDir)) fun
    (available : UInt64) =>
      let availableMb := toString (available.toNat / mebibyte)
      let details :=
        "Required: " ++ toString s.minFreeSpaceMb ++ " MB, Available: " ++ availableMb ++ " MB"
      if requiredBytes s ≤ available.toNat then
        .pass .diskSpace ("Sufficient disk space: " ++ availableMb ++ " MB available") details
      else .fail .diskSpace "Insufficient disk space" details

def dataFilesResult (path : Path) (count : Nat) : CheckResult :=
  let details := "Path: " ++ path.text
  if 0 < count then
    .pass .databasePath ("Database path valid: " ++ toString count ++ " DBF files found") details
  else .warn .databasePath "Database path exists but no DBF files found" details

def databaseListing (path : Path) : Probe CheckResult := do
  match ← Probe.query (.listDir path) with
  | .ok entries => return dataFilesResult path (← countDataFiles entries)
  | .error e => return .probeFailed .databasePath s e.message

def databasePath : Probe CheckResult :=
  match s.databasePath.filter fun p => !p.isEmpty with
  | none =>
    return .warn .databasePath "Database path not specified"
      "Will be configured during installation"
  | some path => do
    match ← Probe.query (.isDir path) with
    | .ok true => databaseListing s path
    | .ok false =>
      return .fail .databasePath "Database path does not exist"
        ("Path: " ++ path.text ++ " - Directory will be created if needed")
    | .error e => return .probeFailed .databasePath s e.message

def port : Probe CheckResult :=
  asking s .port .listeningPorts fun ports =>
    if ports.contains s.port then
      .fail .port ("Port " ++ toString s.port ++ " is already in use")
        "Please choose a different port or stop the service using this port"
    else
      .pass .port ("Port " ++ toString s.port ++ " is available") "Port is free and can be used"

/-- How a firewall that is not enabled counts. -/
def unmetFirewall : FirewallPolicy → Status
  | .advisory => .warn
  | .require => .fail

def firewall : Probe CheckResult :=
  asking s .firewall (.storeKey StoreKeys.firewall) fun
    | none =>
      .make .firewall (unmetFirewall s.firewallPolicy) "Firewall status unknown"
        "Firewall policy is not configured on this host"
    | some values =>
      if values.number? "EnableFirewall" = some 1 then
        .pass .firewall "Firewall is enabled"
          "Firewall rule will be created automatically for localhost access"
      else
        .make .firewall (unmetFirewall s.firewallPolicy) "Firewall is disabled"
          "Consider enabling firewall for security"

/-- The result for what the companion tool answered. -/
def companionResult : Except ProbeError ToolOutput → CheckResult
  | .ok output =>
    if output.succeeded then
      .pass .companionTool (s.companionTool.program ++ " installed") (Text.trim output.stdout)
    else missing
  | .error _ => missing
where
  missing : CheckResult :=
    .warn .companionTool (s.companionTool.program ++ " not found (optional)")
      s.companionTool.installHint

def companionTool : Probe CheckResult := do
  let tool := s.companionTool
  return companionResult s
    (← Probe.query (.runTool tool.program tool.args (.ofSecs tool.timeoutSecs.toNat)))

def run : CheckId → Probe CheckResult
  | .osVersion => osVersion s
  | .elevation => elevation s
  | .databaseDriver => databaseDriver s
  | .nativeRuntime => nativeRuntime s
  | .managedRuntime => managedRuntime s
  | .diskSpace => diskSpace s
  | .databasePath => databasePath s
  | .port => port s
  | .firewall => firewall s
  | .companionTool => companionTool s

end Readiness.Check
