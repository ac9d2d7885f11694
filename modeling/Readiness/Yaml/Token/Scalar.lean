import Readiness.Text.Digit
import Readiness.Yaml.Token.Cursor

/-!
Scalars: their pieces are read off the text first, and then joined by the rules for line breaks.
Inside quotes and in plain scalars a single line break is a space; block scalars keep their lines
or fold them.
-/

namespace Readiness.Yaml

inductive Piece
  | char (c : Char)
  | blank (c : Char)
  | lineBreak (c : Char)
  /-- An escaped line break, which leaves nothing. -/
  | joint
  deriving DecidableEq

/-- The blanks and line breaks since the last character. -/
inductive Gap
  | blanks (text : List Char)
  | breaks (first : Option Char) (more : List Char)

namespace Gap

def empty : Gap := .blanks []

def addBlank (c : Char) : Gap → Gap
  | blanks text => blanks (text ++ [c])
  | breaks first more => breaks first more

def addBreak (c : Char) : Gap → Gap
  | blanks _ => breaks (some c) []
  | breaks first more => breaks first (more ++ [c])

/-- What a gap leaves: blanks alone stay, a single line feed is a space, and of more line breaks
the first is dropped. -/
def text : Gap → List Char
  | blanks text => text
  | breaks (some '\n') [] => [' ']
  | breaks (some '\n') more => more
  | breaks first more => first.toList ++ more

end Gap

/-- Joins pieces after a gap. -/
def joinPieces (gap : Gap) : List Piece → List Char
  | [] => gap.text
  | .char c :: rest => gap.text ++ c :: joinPieces .empty rest
  | .blank c :: rest => joinPieces (gap.addBlank c) rest
  | .lineBreak c :: rest => joinPieces (gap.addBreak c) rest
  | .joint :: rest => gap.text ++ joinPieces (.breaks none []) rest

/-- Whether a piece is a blank or a line break. -/
def Piece.isGap : Piece → Bool
  | .blank _ => true
  | .lineBreak _ => true
  | _ => false

/-- What a reader of pieces answers. -/
abbrev Pieces := List Piece × Cursor

def Pieces.cons (piece : Piece) (read : Pieces) : Pieces := (piece :: read.1, read.2)

/-- The pieces up to the closing quote; a quote inside is written twice. -/
def readSingleQuoted (line column : Nat) : List Char → Option Pieces
  | [] => none
  | c :: rest =>
    if isMarker column (c :: rest) then none
    else if c = '\'' then
      match rest with
      | '\'' :: rest => (readSingleQuoted line (column + 2) rest).map (Pieces.cons (.char '\''))
      | _ => some ([], ⟨line, column + 1, rest⟩)
    else if isBreak c then (readSingleQuoted (line + 1) 0 rest).map (Pieces.cons (.lineBreak c))
    else
      (readSingleQuoted line (column + 1) rest).map
        (Pieces.cons (if isBlank c then .blank c else .char c))

def escape? : Char → Option Char
  | '0' => some '\x00'
  | 'a' => some '\x07'
  | 'b' => some '\x08'
  | 't' => some '\t'
  | '\t' => some '\t'
  | 'n' => some '\n'
  | 'v' => some '\x0b'
  | 'f' => some '\x0c'
  | 'r' => some '\r'
  | 'e' => some '\x1b'
  | ' ' => some ' '
  | '"' => some '"'
  | '/' => some '/'
  | '\\' => some '\\'
  | 'N' => some '\u0085'
  | '_' => some '\u00a0'
  | 'L' => some '\u2028'
  | 'P' => some '\u2029'
  | _ => none

def codePoint? (digits : List Char) : Option Char :=
  match Text.readNat? 16 digits with
  | some n => if n < 0xD800 ∨ (0xDFFF < n ∧ n ≤ 0x10FFFF) then some (Char.ofNat n) else none
  | none => none

/-- The pieces up to the closing quote, with escapes. -/
def readDoubleQuoted (line column : Nat) : List Char → Option Pieces
  | [] => none
  | '\\' :: 'x' :: a :: b :: rest =>
    match codePoint? [a, b] with
    | some c => (readDoubleQuoted line (column + 4) rest).map (Pieces.cons (.char c))
    | none => none
  | '\\' :: 'u' :: a :: b :: c :: d :: rest =>
    match codePoint? [a, b, c, d] with
    | some c => (readDoubleQuoted line (column + 6) rest).map (Pieces.cons (.char c))
    | none => none
  | '\\' :: 'U' :: a :: b :: c :: d :: e :: f :: g :: h :: rest =>
    match codePoint? [a, b, c, d, e, f, g, h] with
    | some c => (readDoubleQuoted line (column + 10) rest).map (Pieces.cons (.char c))
    | none => none
  | '\\' :: letter :: rest =>
    if isBreak letter then (readDoubleQuoted (line + 1) 0 rest).map (Pieces.cons .joint)
    else match escape? letter with
      | some c => (readDoubleQuoted line (column + 2) rest).map (Pieces.cons (.char c))
      | none => none
  | c :: rest =>
    if isMarker column (c :: rest) || c = '\\' then none
    else if c = '"' then some ([], ⟨line, column + 1, rest⟩)
    else if isBreak c then (readDoubleQuoted (line + 1) 0 rest).map (Pieces.cons (.lineBreak c))
    else
      (readDoubleQuoted line (column + 1) rest).map
        (Pieces.cons (if isBlank c then .blank c else .char c))

/-- The text between quotes, and the cursor after it. -/
def quotedScalar (pieces? : Option Pieces) : Option (String × Cursor) :=
  pieces?.map fun (pieces, cursor) => (String.ofList (joinPieces .empty pieces), cursor)

/-- Where a plain scalar is read. -/
structure PlainContext where
  /-- Whether it stands inside brackets. -/
  flow : Bool
  /-- The least column of its later lines. -/
  indent : Nat

/-- The pieces of a plain scalar, and whether a line break came last. `gap` and `broken` say
whether blanks, and among them a line break, come before. -/
def readPlain (context : PlainContext) (gap broken : Bool) (line column : Nat) :
    List Char → Option (Pieces × Bool)
  | [] => some (([], ⟨line, column, []⟩), broken)
  | c :: rest =>
    if isBlank c then
      if broken && column < context.indent && c = '\t' then none
      else (readPlain context true broken line (column + 1) rest).map (cons (.blank c))
    else if isBreak c then
      (readPlain context true true (line + 1) 0 rest).map (cons (.lineBreak c))
    else if gap && ((!context.flow && column < context.indent) || c = '#' ||
        isMarker column (c :: rest)) then
      some (([], ⟨line, column, c :: rest⟩), broken)
    else if context.flow && c = ':' && (rest.head?.any fun d => isFlowIndicator d || d = '?') then
      none
    else if (c = ':' && endsToken rest) || (context.flow && isFlowIndicator c) then
      some (([], ⟨line, column, c :: rest⟩), broken)
    else (readPlain context false false line (column + 1) rest).map (cons (.char c))
where
  cons (piece : Piece) (read : Pieces × Bool) : Pieces × Bool := (read.1.cons piece, read.2)

/-- The text of a plain scalar, the cursor after it, and whether a line break came last. -/
def plainScalar (context : PlainContext) (c : Cursor) : Option (String × Cursor × Bool) :=
  (readPlain context false false c.line c.column c.rest).map fun ((pieces, cursor), broken) =>
    let kept := (pieces.reverse.dropWhile Piece.isGap).reverse
    (String.ofList (joinPieces .empty kept), cursor, broken)

/-- What becomes of the line breaks at the end of a block scalar. -/
inductive Chomping
  | strip
  | clip
  | keep
  deriving DecidableEq

/-- The head of a block scalar: its chomping, and how far it is indented if it says so. -/
structure BlockHead where
  chomping : Chomping
  indent? : Option Nat

def chomping? : Char → Option Chomping
  | '+' => some .keep
  | '-' => some .strip
  | _ => none

/-- An indentation is a digit, and not zero. -/
def readIndent : List Char → Option (Option Nat × List Char)
  | [] => some (none, [])
  | c :: rest =>
    if c = '0' then none
    else if c.isDigit then some (some (c.toNat - '0'.toNat), rest)
    else some (none, c :: rest)

/-- The two parts of a head come in either order. -/
def readHead (cs : List Char) : Option (BlockHead × List Char) :=
  match cs.head?.bind chomping? with
  | some chomping => (readIndent (cs.drop 1)).map fun (indent, rest) => (⟨chomping, indent⟩, rest)
  | none => (readIndent cs).map fun (indent, rest) =>
    match indent, rest.head?.bind chomping? with
    | some n, some chomping => (⟨chomping, some n⟩, rest.drop 1)
    | _, _ => (⟨.clip, indent⟩, rest)

/-- The rest after blanks and a comment, which must end the line. -/
def endLine? (cs : List Char) : Option (List Char) :=
  let rest := cs.dropWhile isBlank
  let rest := if rest.head? = some '#' then rest.dropWhile (fun c => !isBreak c) else rest
  match rest with
  | [] => some []
  | c :: after => if isBreak c then some after else none

/-- The widest margin before the first character that is no space; a tab there is refused. -/
def widestMargin (column widest : Nat) : List Char → Option Nat
  | [] => some (max widest column)
  | c :: rest =>
    if c = ' ' then widestMargin (column + 1) widest rest
    else if c = '\t' then none
    else if isBreak c then widestMargin 0 (max widest column) rest
    else some (max widest column)

/-- The pieces of a block scalar. It ends before the first character in its margin. -/
def readBlock (indent : Nat) (inside : Bool) (line column : Nat) : List Char → Option Pieces
  | [] => some ([], ⟨line, column, []⟩)
  | c :: rest =>
    if isBreak c then (readBlock indent false (line + 1) 0 rest).map (Pieces.cons (.lineBreak c))
    else if inside || indent ≤ column then
      (readBlock indent true line (column + 1) rest).map (Pieces.cons (.char c))
    else if c = ' ' then readBlock indent false line (column + 1) rest
    else if c = '\t' then none
    else some ([], ⟨line, column, c :: rest⟩)

/-- A line that is not empty, the break at its end, and the breaks of the empty lines after it. -/
structure Row where
  content : List Char
  ending : List Char
  emptyLines : List Char

/-- The breaks before the first row, and the rows. -/
def rowsOf : List Piece → List Char × List Row
  | [] => ([], [])
  | .char c :: rest =>
    match rest, rowsOf rest with
    | .char _ :: _, (breaks, row :: rows) => (breaks, { row with content := c :: row.content } :: rows)
    | _, (breaks, rows) => ([], ⟨[c], breaks.take 1, breaks.drop 1⟩ :: rows)
  | .lineBreak c :: rest =>
    let (breaks, rows) := rowsOf rest
    (c :: breaks, rows)
  | _ :: rest => rowsOf rest

/-- Joins the rows after `before`, which are the break at the end of the last row and the breaks of
the empty lines since. Folding makes a space of a single line feed between two rows that both begin
without a blank. -/
def joinRows (folded : Bool) (chomping : Chomping) (ending emptyLines : List Char)
    (blankBefore : Bool) : List Row → List Char
  | [] =>
    match chomping with
    | .strip => []
    | .clip => ending
    | .keep => ending ++ emptyLines
  | row :: rows =>
    let blank := row.content.head?.any isBlank
    let between :=
      if folded && ending.head? == some '\n' && !blankBefore && !blank then
        if emptyLines.isEmpty then [' '] else emptyLines
      else ending ++ emptyLines
    between ++ row.content ++ joinRows folded chomping row.ending row.emptyLines blank rows

/-- A block scalar after its indicator. `outer` is the indentation of the block it stands in, if it
stands in one. -/
def blockScalar (folded : Bool) (outer : Option Nat) (c : Cursor) : Option (String × Cursor) := do
  let (head, rest) ← readHead c.rest
  let broken := rest.any isBreak
  let body ← endLine? rest
  let least := match outer with
    | some n => n + 1
    | none => 0
  let indent ← match head.indent? with
    | some n => some (match outer with
      | some m => m + n
      | none => n)
    | none => (widestMargin 0 0 body).map fun widest => max widest (max least 1)
  let line := if broken then c.line + 1 else c.line
  let (pieces, cursor) ← readBlock indent false line 0 body
  let (breaks, rows) := rowsOf pieces
  return (String.ofList (joinRows folded head.chomping [] breaks false rows), cursor)

end Readiness.Yaml
