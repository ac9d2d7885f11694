/-!
A place in YAML text, and the classes of characters that its tokens are told apart by.
-/

namespace Readiness.Yaml

/-- The characters that a text may hold. -/
def isPermitted (c : Char) : Bool :=
  let n := c.toNat
  n == 0x09 || n == 0x0A || n == 0x0D || (0x20 ≤ n && n ≤ 0x7E) || n == 0x85 ||
  (0xA0 ≤ n && n ≤ 0xFFFD) || 0x10000 ≤ n

/-- Writes each line break as a line feed; the separators of Unicode stay what they are. -/
def unifyBreaks : List Char → List Char
  | [] => []
  | '\r' :: '\n' :: rest => '\n' :: unifyBreaks rest
  | c :: rest => (if c = '\r' ∨ c = '\u0085' then '\n' else c) :: unifyBreaks rest

def isBreak (c : Char) : Bool := c = '\n' || c = '\u2028' || c = '\u2029'

def isBlank (c : Char) : Bool := c = ' ' || c = '\t'

/-- Whether a token may end here: at a blank, at a line break or at the end of the text. -/
def endsToken : List Char → Bool
  | [] => true
  | c :: _ => isBlank c || isBreak c

/-- The characters of names, of anchors and of tag handles. -/
def isNameChar (c : Char) : Bool := c.isAlphanum || c = '_' || c = '-'

/-- The brackets and the comma, which end a plain scalar inside brackets. -/
def isFlowIndicator (c : Char) : Bool :=
  c = ',' || c = '[' || c = ']' || c = '\x7b' || c = '\x7d'

/-- Whether a marker of a document's start or end stands here, given the column. -/
def isMarker (column : Nat) (rest : List Char) : Bool :=
  column == 0 && (rest.take 3 == ['-', '-', '-'] || rest.take 3 == ['.', '.', '.']) &&
    endsToken (rest.drop 3)

/-- The text that is left, and where it begins. -/
structure Cursor where
  line : Nat
  column : Nat
  rest : List Char

namespace Cursor

/-- The cursor further along its line, where `rest` is left. -/
def goTo (c : Cursor) (rest : List Char) : Cursor :=
  ⟨c.line, c.column + (c.rest.length - rest.length), rest⟩

/-- The cursor after a number of characters of its line. -/
def skip (count : Nat) (c : Cursor) : Cursor := c.goTo (c.rest.drop count)

end Cursor
end Readiness.Yaml
