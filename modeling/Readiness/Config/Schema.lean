import Readiness.Path
import Readiness.Report.Format
import Readiness.Terminal.Verbosity

/-!
The configuration: how results are shown, and the parameters of the checks. Every field has a
default, so that a file may leave out any of them.
-/

namespace Readiness

/-- What a firewall that is not enabled means. -/
inductive FirewallPolicy
  /-- The check passes and tells the state. -/
  | advisory
  /-- The check fails, without blocking. -/
  | require
  deriving DecidableEq, Repr, Inhabited

namespace FirewallPolicy

def all : List FirewallPolicy := [advisory, require]

def name : FirewallPolicy → String
  | advisory => "advisory"
  | require => "require"

end FirewallPolicy

/-- How a run is shown and carried out. -/
structure Settings where
  defaultOutput : Verbosity := .normal
  format : ReportFormat := .human
  parallel : Bool := false
  deriving DecidableEq, Repr

/-- A program that is useful to have beside the agent. -/
structure CompanionTool where
  program : String := "cloudflared"
  args : List String := ["--version"]
  timeoutSecs : UInt64 := 5
  /-- What to tell where it is missing. -/
  installHint : String :=
    "Install cloudflared for Cloudflare Tunnel support: winget install Cloudflare.cloudflared"
  deriving DecidableEq, Repr

structure CheckSettings where
  port : UInt16 := 8787
  /-- The directory of the database tables, if it is known. -/
  databasePath : Option Path := none
  minOsMajor : UInt32 := 10
  minFreeSpaceMb : UInt64 := 500
  minManagedRelease : UInt64 := 461808
  installDir : Option Path := none
  firewallPolicy : FirewallPolicy := .advisory
  companionTool : CompanionTool := {}
  deriving DecidableEq, Repr

structure Config where
  settings : Settings := {}
  checks : CheckSettings := {}
  deriving DecidableEq, Repr

def defaultPort : UInt16 := 8787

end Readiness
