import Readiness.Path
import Readiness.Report.Format

/-!
What a command line asks for, and why one is refused.
-/

namespace Readiness

/-- The shells that completions can be had for. -/
inductive Shell
  | bash
  | elvish
  | fish
  | powershell
  | zsh
  deriving DecidableEq, Repr, Inhabited

namespace Shell

def all : List Shell := [bash, elvish, fish, powershell, zsh]

def name : Shell → String
  | bash => "bash"
  | elvish => "elvish"
  | fish => "fish"
  | powershell => "powershell"
  | zsh => "zsh"

def ofName? (text : String) : Option Shell := all.find? fun shell => shell.name == text

end Shell

/-- The options of the command that runs the checks; what they leave open the configuration says. -/
structure CheckOptions where
  databasePath : Option Path := none
  port : Option UInt16 := none
  format : Option ReportFormat := none
  parallel : Bool := false
  agentConfig : Option Path := none
  output : Option Path := none
  deriving DecidableEq, Repr

structure ListOptions where
  json : Bool := false
  criticalOnly : Bool := false
  deriving DecidableEq, Repr

inductive Command
  | check (options : CheckOptions)
  | list (options : ListOptions)
  | completions (shell : Shell)
  deriving DecidableEq, Repr

structure Invocation where
  config : Option Path := none
  verbose : Bool := false
  quiet : Bool := false
  noColor : Bool := false
  debug : Bool := false
  command : Option Command := none
  deriving DecidableEq, Repr

/-- Why a command line is not carried out. -/
inductive Refusal
  | help
  /-- The version was asked for; the text names the command it was asked of. -/
  | version (text : String)
  | unknownArgument
  | unknownCommand
  /-- A value is missing, or none of those that are possible. -/
  | invalidValue
  /-- A value does not fit its type. -/
  | unfitValue
  /-- An option is given twice. -/
  | conflict
  | surplusValue
  | missingArgument
  deriving DecidableEq, Repr

namespace Refusal

/-- Whether the command line is at fault; help and version are only another answer. -/
def isError : Refusal → Bool
  | help => false
  | version _ => false
  | _ => true

def exitCode (r : Refusal) : Nat := if r.isError then 2 else 0

end Refusal
end Readiness
