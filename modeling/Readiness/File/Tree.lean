import Readiness.File.System
import Readiness.Text.Utf8

/-!
A file system as a value: the directories and files of a tree, looked up the way a Unix kernel
walks a path.
-/

namespace Readiness.File

/-- The names from the root down. -/
abbrev Location := List String

structure Tree where
  directories : List Location
  files : List (Location × List UInt8)
  current : Location

namespace Tree

/-- The longest name and the longest path, in bytes, that the kernel accepts. -/
def maxName : Nat := 255
def maxPath : Nat := 4095

def empty (current : Location) : Tree := ⟨[], [], current⟩

/-- Every directory on the way down to a location, and the location itself. -/
def withParents (place : Location) : List Location :=
  (List.range place.length).map fun n => place.take (n + 1)

def addDirectory (t : Tree) (place : Location) : Tree :=
  { t with directories := t.directories ++ withParents place }

/-- Puts a file in place of what was there, with the directories above it. -/
def addFile (t : Tree) (place : Location) (bytes : List UInt8) : Tree :=
  { t with
    directories := t.directories ++ withParents place.dropLast
    files := (t.files.filter fun (other, _) => other != place) ++ [(place, bytes)] }

def fileAt? (t : Tree) (place : Location) : Option (List UInt8) :=
  (t.files.find? fun (other, _) => other == place).map (·.2)

def isDirectoryAt (t : Tree) (place : Location) : Bool :=
  place.isEmpty || t.directories.contains place

/-- Follows the pieces of a path. Every step starts from a directory; an empty piece and `.` stay,
and the parent of the root is the root. -/
def walk (t : Tree) : Location → List String → Except Error Location
  | here, [] => .ok here
  | here, piece :: rest =>
    if !t.isDirectoryAt here then
      if (t.fileAt? here).isSome then .error .notADirectory else .error .notFound
    else if piece = "" ∨ piece = "." then walk t here rest
    else if piece = ".." then walk t here.dropLast rest
    else if maxName < Text.Utf8.size piece then .error .nameTooLong
    else walk t (here ++ [piece]) rest

/-- The pieces of a path and the location where they begin. -/
def begin (t : Tree) (p : Path) : Except Error (Location × List String) :=
  let pieces := (Text.splitAt '/' p.text.toList).map String.ofList
  if p.text.toList.contains '\x00' then .error .nulInPath
  else if p.isEmpty then .error .notFound
  else if maxPath < Text.Utf8.size p.text then .error .nameTooLong
  else .ok (if p.isAbsolute then [] else t.current, pieces)

/-- The location that a path names and that holds something. -/
def locate (t : Tree) (p : Path) : Except Error (Location × Kind) := do
  let (start, pieces) ← t.begin p
  let found ← t.walk start pieces
  if t.isDirectoryAt found then return (found, .directory)
  else if (t.fileAt? found).isSome then return (found, .file)
  else throw .notFound

def read (t : Tree) (p : Path) : Except Error String := do
  match ← t.locate p with
  | (_, .directory) => throw .isADirectory
  | (found, .file) =>
    match Text.Utf8.decode? ((t.fileAt? found).getD []) with
    | some text => return text
    | none => throw .notUtf8

/-- The name that a location adds to a directory, if it lies directly in it. -/
def nameIn? (dir : Location) (place : Location) : Option String :=
  if place.dropLast == dir then place.getLast? else none

def insertName (name : String) : List String → List String
  | [] => [name]
  | other :: rest =>
    if name = other then other :: rest
    else if name < other then name :: other :: rest
    else other :: insertName name rest

def names (t : Tree) (p : Path) : Except Error (List String) := do
  match ← t.locate p with
  | (_, .file) => throw .notADirectory
  | (dir, .directory) =>
    let found := (t.directories ++ t.files.map (·.1)).filterMap (nameIn? dir)
    return found.foldr insertName []

/-- The location at which writing to a path puts a file. The directory must be there; a path that
ends in a separator or in a dot piece names a directory. -/
def target (t : Tree) (p : Path) : Except Error Location := do
  let (start, pieces) ← t.begin p
  let named := (pieces.reverse.dropWhile (· = "")).reverse
  let dir ← t.walk start named.dropLast
  let last := named.getLast?.getD ""
  if !t.isDirectoryAt dir then
    if (t.fileAt? dir).isSome then throw .notADirectory else throw .notFound
  if named.length < pieces.length ∨ last = "" ∨ last = "." ∨ last = ".." then throw .isADirectory
  if maxName < Text.Utf8.size last then throw .nameTooLong
  if t.isDirectoryAt (dir ++ [last]) then throw .isADirectory
  return dir ++ [last]

def write (t : Tree) (p : Path) (text : String) : Except Error Tree := do
  return t.addFile (← t.target p) (Text.Utf8.encode text)

def system (t : Tree) : System where
  kind p := (t.locate p).map (·.2)
  read := t.read
  names := t.names
  write p := (t.target p).map fun _ => ()

end Tree
end Readiness.File
