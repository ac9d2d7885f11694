/-!
Why a file operation fails.
-/

namespace Readiness.File

inductive Error
  | notFound
  | notADirectory
  | isADirectory
  | nameTooLong
  | permissionDenied
  /-- The path holds a NUL character, which no file name can. -/
  | nulInPath
  | notUtf8
  /-- Any other cause, in the words of the system. -/
  | other (text : String)
  deriving DecidableEq, Repr

/-- The words of the operating system, with its number for the cause. -/
def Error.message : Error → String
  | notFound => "No such file or directory (os error 2)"
  | notADirectory => "Not a directory (os error 20)"
  | isADirectory => "Is a directory (os error 21)"
  | nameTooLong => "File name too long (os error 36)"
  | permissionDenied => "Permission denied (os error 13)"
  | nulInPath => "file name contained an unexpected NUL byte"
  | notUtf8 => "stream did not contain valid UTF-8"
  | other text => text

end Readiness.File
