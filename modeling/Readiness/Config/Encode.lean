import Readiness.Config.Schema
import Readiness.Yaml.Value

/-!
The YAML value of a configuration. Unset paths are left out, and so is a `parallel` that is false.
-/

namespace Readiness

open Yaml (Value)

def entry (name : String) (value : Value) : Value × Value := (.string name, value)

def Settings.toYaml (s : Settings) : Value :=
  .mapping <|
    [entry "default_output" (.string s.defaultOutput.name),
     entry "format" (.string s.format.name)] ++
    if s.parallel then [entry "parallel" (.bool true)] else []

def CompanionTool.toYaml (t : CompanionTool) : Value :=
  .mapping
    [entry "program" (.string t.program),
     entry "args" (.sequence (t.args.map .string)),
     entry "timeout_secs" (.int t.timeoutSecs.toNat),
     entry "install_hint" (.string t.installHint)]

def pathEntry (name : String) (path : Option Path) : Yaml.Entries :=
  path.toList.map fun p => entry name (.string p.text)

def CheckSettings.toYaml (s : CheckSettings) : Value :=
  .mapping <|
    [entry "port" (.int s.port.toNat)] ++
    pathEntry "database_path" s.databasePath ++
    [entry "min_os_major" (.int s.minOsMajor.toNat),
     entry "min_free_space_mb" (.int s.minFreeSpaceMb.toNat),
     entry "min_managed_release" (.int s.minManagedRelease.toNat)] ++
    pathEntry "install_dir" s.installDir ++
    [entry "firewall_policy" (.string s.firewallPolicy.name),
     entry "companion_tool" s.companionTool.toYaml]

def Config.toYaml (c : Config) : Value :=
  .mapping [entry "settings" c.settings.toYaml, entry "checks" c.checks.toYaml]

end Readiness
