import Readiness.Text.Digit
import Readiness.Text.Utf8
import Readiness.Yaml.Token
import Readiness.Yaml.Token.Cursor

/-!
The parts of tags and of directives as they are written.
-/

namespace Readiness.Yaml

/-- The characters of a tag; angle brackets also allow the comma and square brackets. -/
def isTagChar (bracketed : Bool) (c : Char) : Bool :=
  isNameChar c || ";/?:@&=+$.%!~*'()".toList.contains c ||
    (bracketed && (c = ',' || c = '[' || c = ']'))

/-- How many bytes follow the first byte of a character. -/
def followingBytes? (byte : Nat) : Option Nat :=
  if byte < 0x80 then some 0
  else if 0xC0 ≤ byte ∧ byte < 0xE0 then some 1
  else if 0xE0 ≤ byte ∧ byte < 0xF0 then some 2
  else if 0xF0 ≤ byte ∧ byte < 0xF8 then some 3
  else none

/-- The bytes of a tag, up to a character that is none of a tag. An escape stands for a byte, and
the bytes of one character stand together; `due` of them are still to come. -/
def readTagBytes (bracketed : Bool) (due : Nat) : List Char → Option (List UInt8 × List Char)
  | [] => if due = 0 then some ([], []) else none
  | '%' :: a :: b :: rest =>
    match Text.readNat? 16 [a, b] with
    | none => none
    | some byte =>
      let due? :=
        if due = 0 then followingBytes? byte
        else if 0x80 ≤ byte ∧ byte < 0xC0 then some (due - 1)
        else none
      match due? with
      | none => none
      | some due => (readTagBytes bracketed due rest).map fun (bytes, rest) =>
          (byte.toUInt8 :: bytes, rest)
  | c :: rest =>
    if due ≠ 0 || c = '%' then none
    else if isTagChar bracketed c then
      (readTagBytes bracketed 0 rest).map fun (bytes, rest) =>
        (Text.Utf8.encodeChar c ++ bytes, rest)
    else some ([], c :: rest)

def readTagBytes1 (bracketed : Bool) (cs : List Char) : Option (List UInt8 × List Char) :=
  (readTagBytes bracketed 0 cs).filter fun (bytes, _) => !bytes.isEmpty

/-- A tag after its exclamation mark: in angle brackets, after a handle, or on its own. -/
def readTag : List Char → Option (Token × List Char)
  | '<' :: rest =>
    match readTagBytes1 true rest with
    | some (bytes, '>' :: rest) => some (.tag "" bytes, rest)
    | _ => none
  | cs =>
    let name := cs.takeWhile isNameChar
    match cs.dropWhile isNameChar with
    | '!' :: rest =>
      (readTagBytes1 false rest).map fun (bytes, rest) =>
        (.tag ("!" ++ String.ofList name ++ "!") bytes, rest)
    | _ =>
      (readTagBytes false 0 cs).map fun (bytes, rest) =>
        if bytes.isEmpty then (.tag "" ['!'.toNat.toUInt8], rest) else (.tag "!" bytes, rest)

/-- The handle of a directive: an exclamation mark, or a name between two of them. -/
def readHandle : List Char → Option (String × List Char)
  | '!' :: rest =>
    let name := rest.takeWhile isNameChar
    match name, rest.dropWhile isNameChar with
    | _, '!' :: rest => some ("!" ++ String.ofList name ++ "!", rest)
    | [], rest => some ("!", rest)
    | _, _ => none
  | _ => none

/-- A number of at most nine digits. -/
def readShortNumber (cs : List Char) : Option (Nat × List Char) :=
  let digits := cs.takeWhile Char.isDigit
  if 9 < digits.length then none
  else (Text.readNat? 10 digits).map fun n => (n, cs.dropWhile Char.isDigit)

/-- A version, after the name of its directive. -/
def readVersion (cs : List Char) : Option (Token × List Char) :=
  match readShortNumber (cs.dropWhile isBlank) with
  | some (major, '.' :: rest) =>
    (readShortNumber rest).map fun (minor, rest) => (.version major minor, rest)
  | _ => none

/-- A handle and what it stands for, after the name of the directive. -/
def readHandleDirective (cs : List Char) : Option (Token × List Char) :=
  match readHandle (cs.dropWhile isBlank) with
  | some (handle, c :: rest) =>
    if isBlank c then
      match readTagBytes1 true (rest.dropWhile isBlank) with
      | some (bytes, rest) => if endsToken rest then some (.handle handle bytes, rest) else none
      | none => none
    else none
  | _ => none

def readDirective (cs : List Char) : Option (Token × List Char) :=
  let name := cs.takeWhile isNameChar
  let rest := cs.dropWhile isNameChar
  if !endsToken rest then none
  else if name = "YAML".toList then readVersion rest
  else if name = "TAG".toList then readHandleDirective rest
  else none

end Readiness.Yaml
