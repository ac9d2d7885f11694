import Readiness.Text.Blank
import Readiness.Text.Digit

/-!
Versions of operating systems, as they are read from what a host says of itself.
-/

namespace Readiness

structure OsVersion where
  description : String
  major : UInt32
  minor : UInt32
  build : UInt32
  deriving DecidableEq, Repr

namespace OsVersion

open Text (isBlank isDecimalDigit)

def number? (digits : List Char) : Option UInt32 :=
  (Text.readBounded? 10 UInt32.size digits).map UInt32.ofNat

/-- The digits in front of the first dot that stands between two digits, and the text after that
dot. `run` holds the digits just passed, the last first. -/
def firstDotted (run : List Char) : List Char → Option (List Char × List Char)
  | [] => none
  | c :: rest =>
    if c = '.' then
      if !run.isEmpty && rest.head?.any isDecimalDigit then some (run.reverse, rest)
      else firstDotted [] rest
    else firstDotted (if isDecimalDigit c then c :: run else []) rest

def afterDot (cs : List Char) : List Char :=
  match cs with
  | '.' :: rest => rest.takeWhile isDecimalDigit
  | _ => []

/-- The first dotted version in a text, with the text as its description. A number that is missing
or does not fit counts as zero. -/
def parse (text : String) : Option OsVersion :=
  (firstDotted [] text.toList).map fun (major, rest) =>
    { description := Text.trim text
      major := (number? major).getD 0
      minor := (number? (rest.takeWhile isDecimalDigit)).getD 0
      build := (number? (afterDot (rest.dropWhile isDecimalDigit))).getD 0 }

/-- The three numbers of a version that names its build in parentheses, as in `10 (19045)`. -/
def parenthesised? (text : String) : Option (UInt32 × UInt32 × UInt32) :=
  let cs := Text.trimBlanks text.toList
  let major := cs.takeWhile isDecimalDigit
  let rest := cs.dropWhile isDecimalDigit
  let minor := afterDot rest
  let rest := if minor.isEmpty then rest else (rest.drop 1).dropWhile isDecimalDigit
  match rest.dropWhile isBlank with
  | '(' :: rest =>
    let build := rest.takeWhile isDecimalDigit
    if !build.isEmpty && (rest.dropWhile isDecimalDigit).head? == some ')' then
      (number? major).map fun n => (n, (number? minor).getD 0, (number? build).getD 0)
    else none
  | _ => none

/-- The description of a version whose numbers come from the kernel or from the version text. -/
def described (longName kernel : Option String) (fallback : String) : String :=
  match longName, kernel with
  | some name, some kernel => name ++ " (kernel " ++ kernel ++ ")"
  | some name, none => name
  | none, some kernel => kernel
  | none, none => fallback

/-- The version of a host from its long name, its version and its kernel, each of which may be
missing. A version with its build in parentheses counts before the kernel's numbers. -/
def assemble (longName version kernel : Option String) : Option OsVersion :=
  match version.bind parenthesised? with
  | some (major, minor, build) =>
    let name := longName.getD ("Windows " ++ toString major)
    some ⟨name ++ " (build " ++ toString build ++ ")", major, minor, build⟩
  | none =>
    ((kernel.bind parse).or (version.bind parse)).map fun dotted =>
      { dotted with description := described longName kernel dotted.description }

end OsVersion
end Readiness
