import Readiness.Config.Schema
import Readiness.Failure
import Readiness.Text.Blank

/-!
The rules that settings must keep.
-/

namespace Readiness.Config

inductive Problem
  | zeroPort
  | zeroFreeSpace
  | blankProgram
  /-- The program whose time limit is zero. -/
  | zeroTimeout (program : String)
  deriving DecidableEq, Repr

namespace Problem

def rule : Problem → String
  | zeroPort => "invalid-port"
  | zeroFreeSpace => "invalid-free-space"
  | blankProgram => "missing-program"
  | zeroTimeout _ => "invalid-timeout"

def message : Problem → String
  | zeroPort => "checks.port must be between 1 and 65535"
  | zeroFreeSpace => "checks.min_free_space_mb must be greater than 0"
  | blankProgram => "checks.companion_tool.program must not be empty"
  | zeroTimeout program =>
    "checks.companion_tool.timeout_secs must be greater than 0 for '" ++ program ++ "'"

end Problem

/-- A problem where the condition holds. -/
def broken (condition : Bool) (problem : Problem) : List Problem :=
  if condition then [problem] else []

def problems (c : Config) : List Problem :=
  let tool := c.checks.companionTool
  broken (c.checks.port == 0) .zeroPort ++
  broken (c.checks.minFreeSpaceMb == 0) .zeroFreeSpace ++
  broken (Text.trim tool.program).isEmpty .blankProgram ++
  broken (tool.timeoutSecs == 0) (.zeroTimeout tool.program)

def validate (c : Config) : Except Failure Unit :=
  match c.problems with
  | [] => .ok ()
  | problems => .error (.configInvalid ("; ".intercalate (problems.map Problem.message)))

end Readiness.Config
