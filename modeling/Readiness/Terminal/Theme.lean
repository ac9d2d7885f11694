import Readiness.Check.Result
import Readiness.Terminal.Style

/-!
The styles of what is shown, each by its purpose.
-/

namespace Readiness

structure Theme where
  success : Style := {}
  warning : Style := {}
  error : Style := {}
  info : Style := {}
  dim : Style := {}
  highlight : Style := {}
  header : Style := {}
  counter : Style := {}
  hint : Style := {}
  deriving DecidableEq, Repr

namespace Theme

def plain : Theme := {}

def colored : Theme where
  success := { color := some .green }
  warning := { color := some (.indexed 208) }
  error := { color := some .red, bold := true }
  info := { color := some .magenta }
  dim := { dim := true }
  highlight := { bold := true }
  header := { color := some .magenta, bold := true }
  counter := { dim := true }
  hint := { color := some .magenta, dim := true }

def ofColor (useColor : Bool) : Theme := if useColor then colored else plain

def ofClass (t : Theme) : ReportClass → Style
  | .passed => t.success
  | .advisory => t.warning
  | .blocking => t.error

def successLine (t : Theme) (text : String) : String := t.success.apply ("✓ " ++ text)

def errorLine (t : Theme) (text : String) : String := t.error.apply ("✗ " ++ text)

def headerLine (t : Theme) (title : String) : String :=
  t.header.apply "◆" ++ " " ++ t.highlight.apply title

/-- A place in the checklist, in brackets and two characters wide. -/
def counterText (t : Theme) (position : Nat) : String :=
  let digits := toString position
  t.counter.apply ("[" ++ (if position < 10 then " " else "") ++ digits ++ "]")

end Theme
end Readiness
