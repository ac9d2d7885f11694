import Readiness.Json.Value

/-!
JSON text, in one line or with an indented line for every member and item.
-/

namespace Readiness.Json

def hexUnit (n : Nat) : List Char :=
  let digits := Nat.toDigits 16 n
  List.replicate (4 - digits.length) '0' ++ digits

/-- One character inside a string: quotes, backslashes and controls are escaped. -/
def escapedChar (c : Char) : List Char :=
  if c = '"' then ['\\', '"']
  else if c = '\\' then ['\\', '\\']
  else if c = '\n' then ['\\', 'n']
  else if c = '\r' then ['\\', 'r']
  else if c = '\t' then ['\\', 't']
  else if c = '\x08' then ['\\', 'b']
  else if c = '\x0c' then ['\\', 'f']
  else if c.toNat < 0x20 then '\\' :: 'u' :: hexUnit c.toNat
  else [c]

def stringText (s : String) : List Char :=
  '"' :: (s.toList.flatMap escapedChar ++ ['"'])

def Literal.chars (l : Literal) : List Char :=
  (if l.negative then ['-'] else []) ++ l.whole ++
    (if l.fraction.isEmpty then [] else '.' :: l.fraction) ++
    match l.exponent with
    | none => []
    | some e => 'e' :: (toString e).toList

/-- How nested values are laid out: nothing between them, or a line each at a depth. -/
inductive Layout
  | compact
  | indented

namespace Layout

/-- What stands before an item at a depth. -/
def lineBreak : Layout → Nat → List Char
  | .compact, _ => []
  | .indented, depth => '\n' :: List.replicate (2 * depth) ' '

def colon : Layout → List Char
  | .compact => [':']
  | .indented => [':', ' ']

end Layout

mutual

/-- The text of a value that stands at a depth. -/
def Value.chars (layout : Layout) (depth : Nat) : Value → List Char
  | .null => "null".toList
  | .bool true => "true".toList
  | .bool false => "false".toList
  | .number literal => literal.chars
  | .string text => stringText text
  | .array [] => ['[', ']']
  | .array (item :: rest) =>
    '[' :: layout.lineBreak (depth + 1) ++ item.chars layout (depth + 1) ++
      itemChars layout depth rest
  | .object [] => ['\x7b', '\x7d']
  | .object ((name, value) :: rest) =>
    '\x7b' :: layout.lineBreak (depth + 1) ++ stringText name ++ layout.colon ++
      value.chars layout (depth + 1) ++ memberChars layout depth rest

/-- The items after the first, and the end of the array. -/
def itemChars (layout : Layout) (depth : Nat) : List Value → List Char
  | [] => layout.lineBreak depth ++ [']']
  | item :: rest =>
    ',' :: layout.lineBreak (depth + 1) ++ item.chars layout (depth + 1) ++
      itemChars layout depth rest

/-- The members after the first, and the end of the object. -/
def memberChars (layout : Layout) (depth : Nat) : List (String × Value) → List Char
  | [] => layout.lineBreak depth ++ ['\x7d']
  | (name, value) :: rest =>
    ',' :: layout.lineBreak (depth + 1) ++ stringText name ++ layout.colon ++
      value.chars layout (depth + 1) ++ memberChars layout depth rest

end

def Value.compact (v : Value) : String := String.ofList (v.chars .compact 0)

def Value.pretty (v : Value) : String := String.ofList (v.chars .indented 0)

end Readiness.Json
