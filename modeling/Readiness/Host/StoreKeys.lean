/-!
The keys of the configuration store that the checks read.
-/

namespace Readiness

namespace StoreKeys

/-- The registration of the database driver, in the native view and in the 32-bit view. -/
def driver : List String :=
  ["SOFTWARE\\ODBC\\ODBCINST.INI\\Microsoft Visual FoxPro Driver",
   "SOFTWARE\\WOW6432Node\\ODBC\\ODBCINST.INI\\Microsoft Visual FoxPro Driver"]

def nativeRuntime : List String :=
  ["SOFTWARE\\Microsoft\\VisualStudio\\14.0\\VC\\Runtimes\\x64",
   "SOFTWARE\\WOW6432Node\\Microsoft\\VisualStudio\\14.0\\VC\\Runtimes\\x64"]

def managedRuntime : String := "SOFTWARE\\Microsoft\\NET Framework Setup\\NDP\\v4\\Full"

def firewall : String :=
  "SYSTEM\\CurrentControlSet\\Services\\SharedAccess\\Parameters\\FirewallPolicy\\StandardProfile"

end StoreKeys

end Readiness
