import Readiness.Terminal.Theme
import Readiness.Terminal.Verbosity

/-!
What a run tells its user, and the consoles that put it on the two output streams. Reports are the
product of the tool: they go to standard output whatever the verbosity, and all else to standard
error.
-/

namespace Readiness

/-- Something told to the user. -/
inductive Action
  | message (text : String)
  | success (text : String)
  | error (text : String)
  | header (title : String)
  | hint (text : String)
  | report (text : String)
  /-- A spinner is started, takes another message, or is taken away. -/
  | spinner (text : String)
  | spinnerMessage (text : String)
  | spinnerClear
  | verbosity (verbosity : Verbosity)
  deriving DecidableEq, Repr

structure Streams where
  stdout : String := ""
  stderr : String := ""
  deriving DecidableEq, Repr

namespace Streams

def append (a b : Streams) : Streams := ⟨a.stdout ++ b.stdout, a.stderr ++ b.stderr⟩

/-- A line on standard error, if it is to be shown. -/
def line (shown : Bool) (text : String) : Streams :=
  if shown then { stderr := text ++ "\n" } else {}

end Streams

inductive Console.Kind
  /-- Text alone, with lines in place of spinners; builds of a CI have no such lines. -/
  | plain (ci : Bool)
  /-- Styled text for a terminal, whose spinners leave nothing behind. -/
  | styled (theme : Theme)
  deriving DecidableEq, Repr

structure Console where
  kind : Console.Kind
  verbosity : Verbosity
  /-- Whether the messages of the spinner are shown. -/
  spinnerShown : Bool := false
  deriving DecidableEq, Repr

namespace Console

/-- The console of a run: styled on a terminal where a user is at hand, else plain. -/
def choose (interactive terminal ci : Bool) (theme : Theme) (verbosity : Verbosity) : Console :=
  if interactive && terminal && !ci then ⟨.styled theme, verbosity, false⟩
  else ⟨.plain ci, verbosity, false⟩

/-- Whether a spinner started now shows its messages as lines. -/
def showsProgress (c : Console) : Bool :=
  match c.kind with
  | .plain ci => c.verbosity.showsSpinners && !ci && c.verbosity.showsCheckProgress
  | .styled _ => false

def status (c : Console) (text : String) : Streams := .line c.verbosity.showsStatus text

def successLine (c : Console) (text : String) : String :=
  match c.kind with
  | .plain _ => "✓ " ++ text
  | .styled theme => theme.successLine text

def errorLine (c : Console) (text : String) : String :=
  match c.kind with
  | .plain _ => "✗ " ++ text
  | .styled theme => theme.errorLine text

def headerLine (c : Console) (title : String) : String :=
  match c.kind with
  | .plain _ => title
  | .styled theme => theme.headerLine title

def hintText (c : Console) (text : String) : String :=
  match c.kind with
  | .plain _ => text
  | .styled theme => theme.hint.apply text

def written (c : Console) : Action → Streams
  | .message text => c.status text
  | .success text => c.status (c.successLine text)
  | .error text => .line true (c.errorLine text)
  | .header title => c.status ("\n" ++ c.headerLine title ++ "\n")
  | .hint text => c.status ("  " ++ c.hintText text)
  | .report text => { stdout := text }
  | .spinner text => .line c.showsProgress ("  " ++ text)
  | .spinnerMessage text => .line c.spinnerShown ("  " ++ text)
  | .spinnerClear => {}
  | .verbosity _ => {}

/-- The console after an action. A spinner keeps the verbosity it was started with. -/
def after (c : Console) : Action → Console
  | .verbosity verbosity => { c with verbosity := verbosity }
  | .spinner _ => { c with spinnerShown := c.showsProgress }
  | _ => c

def output (c : Console) : List Action → Streams
  | [] => {}
  | action :: rest => (c.written action).append ((c.after action).output rest)

end Console
end Readiness
