import Readiness.Terminal.Console

/-!
A record of what a run tells its user, by kind.
-/

namespace Readiness

structure Recording where
  verbosity : Verbosity
  messages : List String := []
  successes : List String := []
  errors : List String := []
  headers : List String := []
  hints : List String := []
  spinners : List String := []
  /-- The messages of spinners; `none` where one is taken away. -/
  spinnerEvents : List (Option String) := []
  reports : List String := []
  deriving DecidableEq, Repr

namespace Recording

/-- The record with one more event of a spinner, if there was a spinner. -/
def spinnerEvent (r : Recording) (event : Option String) : Recording :=
  if r.spinners.isEmpty then r else { r with spinnerEvents := r.spinnerEvents ++ [event] }

def add (r : Recording) : Action → Recording
  | .message text => { r with messages := r.messages ++ [text] }
  | .success text => { r with successes := r.successes ++ [text] }
  | .error text => { r with errors := r.errors ++ [text] }
  | .header title => { r with headers := r.headers ++ [title] }
  | .hint text => { r with hints := r.hints ++ [text] }
  | .report text => { r with reports := r.reports ++ [text] }
  | .spinner text => { r with spinners := r.spinners ++ [text] }
  | .spinnerMessage text => r.spinnerEvent (some text)
  | .spinnerClear => r.spinnerEvent none
  | .verbosity verbosity => { r with verbosity := verbosity }

def ofActions (verbosity : Verbosity) (actions : List Action) : Recording :=
  actions.foldl add { verbosity := verbosity }

def contains (needle : List Char) : List Char → Bool
  | [] => needle.isEmpty
  | c :: rest => needle.isPrefixOf (c :: rest) || contains needle rest

/-- Whether a line that was shown contains a text; headers, spinners and reports do not count. -/
def hasOutput (r : Recording) (needle : String) : Bool :=
  (r.messages ++ r.successes ++ r.errors ++ r.hints).any fun line =>
    contains needle.toList line.toList

end Recording
end Readiness
