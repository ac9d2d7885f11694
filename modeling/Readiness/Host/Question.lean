import Readiness.Host.OsVersion
import Readiness.Host.ProbeError
import Readiness.Host.StoreKey

/-!
What the checks ask of a host, and hosts as what they answer.
-/

namespace Readiness

structure ToolOutput where
  /-- No code means that the program was killed. -/
  exitCode : Option Int
  stdout : String
  deriving DecidableEq, Repr

namespace ToolOutput

def ok (stdout : String) : ToolOutput := ⟨some 0, stdout⟩

def succeeded (o : ToolOutput) : Bool := o.exitCode == some 0

end ToolOutput

inductive Question
  | osVersion
  | isElevated
  | storeKey (key : String)
  | pathExists (p : Path)
  | isDir (p : Path)
  | listDir (p : Path)
  | availableSpace (p : Path)
  | listeningPorts
  | runTool (program : String) (args : List String) (limit : Time.Span)
  deriving DecidableEq, Repr

/-- What an answer to a question is. A key that is not there is answered by `none`. -/
abbrev Question.Answer : Question → Type
  | osVersion => OsVersion
  | isElevated => Bool
  | storeKey _ => Option StoreKey
  | pathExists _ => Bool
  | isDir _ => Bool
  | listDir _ => List Path
  | availableSpace _ => UInt64
  | listeningPorts => List UInt16
  | runTool .. => ToolOutput

/-- What comes back for a question: an answer, an error, or a panic with the text it carries. -/
inductive Reply (α : Type)
  | answer (a : α)
  | error (e : ProbeError)
  | panic (text : Option String)
  deriving Repr

def Reply.ofExcept {α : Type} : Except ProbeError α → Reply α
  | .ok a => answer a
  | .error e => error e

/-- A host: the reply to every question. -/
abbrev Host := (q : Question) → Reply q.Answer

end Readiness
