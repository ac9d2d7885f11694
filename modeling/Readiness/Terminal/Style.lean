/-!
Styles of text on a terminal, written as SGR escape sequences in front of the text and a reset
behind it.
-/

namespace Readiness

inductive Color
  | red
  | green
  | magenta
  /-- One of the 256 colours of the palette. -/
  | indexed (n : UInt8)
  deriving DecidableEq, Repr

structure Style where
  color : Option Color := none
  bold : Bool := false
  dim : Bool := false
  deriving DecidableEq, Repr

namespace Style

def sequence (parameters : String) : String := "\x1b[" ++ parameters ++ "m"

def colorParameters : Color → String
  | .red => "31"
  | .green => "32"
  | .magenta => "35"
  | .indexed n => "38;5;" ++ toString n

/-- The sequences of a style: its colour, then its attributes by their number. -/
def opening (s : Style) : String :=
  String.join
    ((s.color.toList.map fun c => sequence (colorParameters c)) ++
      (if s.bold then [sequence "1"] else []) ++ (if s.dim then [sequence "2"] else []))

/-- Text in a style; in the style that sets nothing it is the text itself. -/
def apply (s : Style) (text : String) : String :=
  if s = {} then text else s.opening ++ text ++ sequence "0"

end Style
end Readiness
