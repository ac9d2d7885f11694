import Readiness.Text.Blank

/-!
Paths with `/` between their components. A path keeps the text it was written with; two spellings
of one path have the same components.
-/

namespace Readiness

structure Path where
  text : String
  deriving DecidableEq, Repr, Inhabited

namespace Path

inductive Component
  | root
  /-- A leading `.` of a relative path. -/
  | here
  | up
  | name (text : List Char)
  deriving DecidableEq, Repr

/-- The step that a piece between separators stands for: an empty piece and `.` stand for none. -/
def Component.ofPiece? : List Char → Option Component
  | [] => none
  | ['.'] => none
  | ['.', '.'] => some .up
  | piece => some (.name piece)

/-- The components: repeated and trailing separators and inner `.` pieces leave none, a leading
`.` is kept, and `..` is not resolved. -/
def components (p : Path) : List Component :=
  match p.text.toList with
  | '/' :: rest => .root :: (Text.splitAt '/' rest).filterMap Component.ofPiece?
  | cs =>
    match Text.splitAt '/' cs with
    | ['.'] :: pieces => .here :: pieces.filterMap Component.ofPiece?
    | pieces => pieces.filterMap Component.ofPiece?

/-- Two spellings of one path. -/
def same (p q : Path) : Bool := p.components == q.components

def isAbsolute (p : Path) : Bool := p.text.toList.head? == some '/'

def isEmpty (p : Path) : Bool := p.text.isEmpty

/-- The path of an entry seen from `p`: an absolute entry stands alone, and a separator is put
only where none is and `p` is not empty. -/
def join (p : Path) (entry : String) : Path :=
  if entry.toList.head? = some '/' then ⟨entry⟩
  else if p.text.isEmpty || p.text.toList.getLast? == some '/' then ⟨p.text ++ entry⟩
  else ⟨p.text ++ "/" ++ entry⟩

def fileName? (p : Path) : Option (List Char) :=
  match p.components.getLast? with
  | some (.name text) => some text
  | _ => none

/-- What follows the last dot of a name, unless the name begins with that dot. -/
def extensionOf? (name : List Char) : Option (List Char) :=
  match name.reverse.dropWhile (· ≠ '.') with
  | [] => none
  | [_] => none
  | _ :: _ :: _ => some (name.reverse.takeWhile (· ≠ '.')).reverse

def extension? (p : Path) : Option (List Char) :=
  p.fileName?.bind extensionOf?

/-- Whether a piece that is not the first of a relative path stands for a step. -/
def isStep (piece : List Char) : Bool := piece ≠ [] ∧ piece ≠ ['.']

/-- Drops the pieces at the end that stand for no step; the pieces come last first. The final one
of them opens the path, where a `.` counts if `leadingDot` is set. -/
def dropIdle (leadingDot : Bool) : List (List Char) → List (List Char)
  | [] => []
  | [piece] => if isStep piece || (leadingDot && piece == ['.']) then [piece] else []
  | piece :: next :: rest =>
    if isStep piece then piece :: next :: rest else dropIdle leadingDot (next :: rest)

/-- The pieces of the parent, last first, if the path names a step at all. -/
def parentPieces? (leadingDot : Bool) (pieces : List (List Char)) : Option (List (List Char)) :=
  match dropIdle leadingDot pieces with
  | [] => none
  | _ :: rest => some (dropIdle leadingDot rest)

def ofPieces (pieces : List (List Char)) : String :=
  String.ofList (['/'].intercalate pieces)

/-- The path without its last component, as it was written up to there. The root and the empty
path have none. -/
def parent? (p : Path) : Option Path :=
  match p.text.toList with
  | '/' :: rest =>
    (parentPieces? false (Text.splitAt '/' rest).reverse).map
      fun pieces => ⟨"/" ++ ofPieces pieces.reverse⟩
  | cs =>
    (parentPieces? true (Text.splitAt '/' cs).reverse).map
      fun pieces => ⟨ofPieces pieces.reverse⟩

/-- The first `count` of a path, its parent, the parent of that, and so on. -/
def ancestorsUpTo : Nat → Path → List Path
  | 0, _ => []
  | count + 1, p =>
    p :: match p.parent? with
      | some q => ancestorsUpTo count q
      | none => []

/-- The path, its parent, the parent of that, and so on: every step shortens the text. -/
def ancestors (p : Path) : List Path :=
  ancestorsUpTo (p.text.length + 1) p

end Path
end Readiness
