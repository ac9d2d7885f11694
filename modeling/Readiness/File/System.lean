import Readiness.File.Error
import Readiness.Path

/-!
What programs ask of a file system: the kind of a path, the text of a file, the names in a
directory, and whether a text can be written.
-/

namespace Readiness.File

inductive Kind
  | file
  | directory
  deriving DecidableEq, Repr

structure System where
  kind : Path → Except Error Kind
  read : Path → Except Error String
  names : Path → Except Error (List String)
  write : Path → Except Error Unit

namespace System

def present (fs : System) (p : Path) : Bool :=
  match fs.kind p with
  | .ok _ => true
  | .error _ => false

def isDir (fs : System) (p : Path) : Bool :=
  match fs.kind p with
  | .ok .directory => true
  | _ => false

end System
end Readiness.File
