import Readiness.CommandLine.Invocation
import Readiness.Text.Digit

/-!
The switches that each command knows, and the values they take.
-/

namespace Readiness.CommandLine

/-- What a command line can set. -/
inductive Setting
  | config
  | verbose
  | quiet
  | noColor
  | debug
  | help
  | version
  | databasePath
  | port
  | format
  | parallel
  | agentConfig
  | output
  | json
  | criticalOnly
  | shell
  deriving DecidableEq, Repr

structure Switch where
  setting : Setting
  long : String
  short : Option Char := none
  takesValue : Bool := false
  deriving Repr

/-- The tool without a command, and its commands. -/
inductive Level
  | root
  | check
  | list
  | completions
  deriving DecidableEq, Repr

namespace Level

def commands : List Level := [check, list, completions]

def name : Level → String
  | root => "preinstall"
  | check => "check"
  | list => "list"
  | completions => "completions"

/-- The name that a version is told under. -/
def fullName : Level → String
  | root => "preinstall"
  | level => "preinstall-" ++ level.name

def ofName? (text : String) : Option Level := commands.find? fun level => level.name == text

def common : List Switch :=
  [⟨.config, "config", some 'c', true⟩, ⟨.verbose, "verbose", some 'v', false⟩,
   ⟨.quiet, "quiet", some 'q', false⟩, ⟨.noColor, "no-color", none, false⟩,
   ⟨.debug, "debug", none, false⟩, ⟨.help, "help", some 'h', false⟩,
   ⟨.version, "version", some 'V', false⟩]

def own : Level → List Switch
  | root => []
  | check =>
    [⟨.databasePath, "database-path", none, true⟩, ⟨.port, "port", none, true⟩,
     ⟨.format, "format", none, true⟩, ⟨.parallel, "parallel", none, false⟩,
     ⟨.agentConfig, "agent-config", none, true⟩, ⟨.output, "output", some 'o', true⟩]
  | list => [⟨.json, "json", none, false⟩, ⟨.criticalOnly, "critical-only", none, false⟩]
  | completions => []

def switches (level : Level) : List Switch := level.own ++ common

def positional? : Level → Option Setting
  | completions => some .shell
  | _ => none

def long? (level : Level) (name : List Char) : Option Switch :=
  level.switches.find? fun s => s.long.toList == name

def short? (level : Level) (letter : Char) : Option Switch :=
  level.switches.find? fun s => s.short == some letter

end Level

/-- A port is a number from 1 to 65535. -/
def port? (text : String) : Option UInt16 :=
  ((Text.readBounded? 10 UInt16.size text.toList).filter (0 < ·)).map UInt16.ofNat

/-- The format of a name in lower case. -/
def format? (text : String) : Option ReportFormat :=
  ReportFormat.all.find? fun format => format.name == text

/-- Refuses a value that a setting cannot have. -/
def checkValue (setting : Setting) (text : String) : Except Refusal Unit :=
  match setting with
  | .port => if (port? text).isSome then .ok () else .error .unfitValue
  | .format => if (format? text).isSome then .ok () else .error .invalidValue
  | .shell => if (Shell.ofName? text).isSome then .ok () else .error .invalidValue
  | .config | .databasePath | .agentConfig | .output =>
    if text.isEmpty then .error .invalidValue else .ok ()
  | _ => .ok ()

end Readiness.CommandLine
