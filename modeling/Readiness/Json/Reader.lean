import Readiness.Json.Value
import Readiness.Text.Digit

/-!
Reading JSON text. A reader takes the characters before it and answers with what it read and the
characters after it; text that is not JSON is refused without a reason.
-/

namespace Readiness.Json

/-- What a reader answers: a result and the rest of the text, or a refusal. -/
abbrev Read (α : Type) := Option (α × List Char)

def isSpace (c : Char) : Bool := c = ' ' || c = '\n' || c = '\t' || c = '\r'

def skipSpace (cs : List Char) : List Char := cs.dropWhile isSpace

/-- The text after an expected word. -/
def afterWord? : List Char → List Char → Option (List Char)
  | [], cs => some cs
  | w :: word, c :: cs => if w = c then afterWord? word cs else none
  | _ :: _, [] => none

def hexUnit? : List Char → Read Nat
  | a :: b :: c :: d :: rest =>
    (Text.readNat? 16 [a, b, c, d]).map fun n => (n, rest)
  | _ => none

/-- A piece of a string: a character, or a half of a surrogate pair. -/
inductive Piece
  | char (c : Char)
  | surrogate (unit : Nat)
  deriving DecidableEq

def isHighSurrogate (n : Nat) : Bool := 0xD800 ≤ n && n ≤ 0xDBFF
def isLowSurrogate (n : Nat) : Bool := 0xDC00 ≤ n && n ≤ 0xDFFF

/-- The piece that an escaped unit is. -/
def Piece.ofUnit (n : Nat) : Piece :=
  if isHighSurrogate n || isLowSurrogate n then .surrogate n else .char (Char.ofNat n)

def simpleEscape? : Char → Option Char
  | '"' => some '"'
  | '\\' => some '\\'
  | '/' => some '/'
  | 'b' => some '\x08'
  | 'f' => some '\x0c'
  | 'n' => some '\n'
  | 'r' => some '\r'
  | 't' => some '\t'
  | _ => none

/-- The pieces up to the closing quote. Control characters are refused. -/
def readPieces : List Char → Read (List Piece)
  | [] => none
  | '"' :: rest => some ([], rest)
  | '\\' :: 'u' :: a :: b :: c :: d :: rest =>
    match Text.readNat? 16 [a, b, c, d] with
    | some unit => (readPieces rest).map fun (pieces, rest) => (.ofUnit unit :: pieces, rest)
    | none => none
  | '\\' :: letter :: rest =>
    match simpleEscape? letter with
    | some c => (readPieces rest).map fun (pieces, rest) => (.char c :: pieces, rest)
    | none => none
  | c :: rest =>
    if c = '\\' || c.toNat < 0x20 then none
    else (readPieces rest).map fun (pieces, rest) => (.char c :: pieces, rest)

def pairCode (high low : Nat) : Nat := 0x10000 + (high - 0xD800) * 0x400 + (low - 0xDC00)

/-- Joins surrogate pairs. `stand` takes the place of a half that stands alone; without it such a
half is refused. -/
def assemble (stand : Option Char) : List Piece → Option (List Char)
  | [] => some []
  | .char c :: rest => (assemble stand rest).map (c :: ·)
  | .surrogate high :: .surrogate low :: rest =>
    if isHighSurrogate high && isLowSurrogate low then
      (assemble stand rest).map (Char.ofNat (pairCode high low) :: ·)
    else stand.bind fun c => (assemble stand (.surrogate low :: rest)).map (c :: ·)
  | .surrogate _ :: rest => stand.bind fun c => (assemble stand rest).map (c :: ·)

/-- A string, after its opening quote. -/
def readString (stand : Option Char) (cs : List Char) : Read String :=
  match readPieces cs with
  | some (pieces, rest) => (assemble stand pieces).map fun text => (String.ofList text, rest)
  | none => none

def isDigit (c : Char) : Bool := '0' ≤ c && c ≤ '9'

def readExponent : List Char → Read (Option Int)
  | [] => some (none, [])
  | c :: rest =>
    if c = 'e' || c = 'E' then
      let (negative, rest) := match rest with
        | '-' :: rest => (true, rest)
        | '+' :: rest => (false, rest)
        | _ => (false, rest)
      match Text.readNat? 10 (rest.takeWhile isDigit) with
      | some n => some (some (if negative then -(n : Int) else n), rest.dropWhile isDigit)
      | none => none
    else some (none, c :: rest)

/-- A number literal: no zero before other digits, and a digit after a point. -/
def readNumber (cs : List Char) : Read Literal :=
  let (negative, cs) := match cs with
    | '-' :: rest => (true, rest)
    | _ => (false, cs)
  let whole := cs.takeWhile isDigit
  let rest := cs.dropWhile isDigit
  match whole with
  | [] => none
  | first :: more =>
    if first = '0' && !more.isEmpty then none
    else match rest with
      | '.' :: rest =>
        let fraction := rest.takeWhile isDigit
        if fraction.isEmpty then none
        else (readExponent (rest.dropWhile isDigit)).map
          fun (exponent, rest) => (⟨negative, whole, fraction, exponent⟩, rest)
      | rest => (readExponent rest).map
          fun (exponent, rest) => (⟨negative, whole, [], exponent⟩, rest)

def startsNumber (c : Char) : Bool := c = '-' || isDigit c

mutual

/-- A value, after white space. The first argument bounds the nesting and the number of members;
the length of the text is enough. -/
def readValue (stand : Option Char) : Nat → List Char → Read Value
  | 0, _ => none
  | fuel + 1, cs =>
    match skipSpace cs with
    | [] => none
    | '"' :: rest => (readString stand rest).map fun (text, rest) => (.string text, rest)
    | '[' :: rest =>
      match skipSpace rest with
      | ']' :: rest => some (.array [], rest)
      | _ => (readItems stand fuel rest).map fun (items, rest) => (.array items, rest)
    | '\x7b' :: rest =>
      match skipSpace rest with
      | '\x7d' :: rest => some (.object [], rest)
      | _ => (readMembers stand fuel rest).map fun (members, rest) => (.object members, rest)
    | 'n' :: rest => (afterWord? "ull".toList rest).map fun rest => (.null, rest)
    | 't' :: rest => (afterWord? "rue".toList rest).map fun rest => (.bool true, rest)
    | 'f' :: rest => (afterWord? "alse".toList rest).map fun rest => (.bool false, rest)
    | c :: rest =>
      if startsNumber c then
        (readNumber (c :: rest)).map fun (literal, rest) => (.number literal, rest)
      else none

/-- One item or more, and the closing bracket. -/
def readItems (stand : Option Char) : Nat → List Char → Read (List Value)
  | 0, _ => none
  | fuel + 1, cs =>
    match readValue stand fuel cs with
    | none => none
    | some (item, rest) =>
      match skipSpace rest with
      | ']' :: rest => some ([item], rest)
      | ',' :: rest => (readItems stand fuel rest).map fun (items, rest) => (item :: items, rest)
      | _ => none

/-- One member or more, and the closing brace. -/
def readMembers (stand : Option Char) : Nat → List Char → Read (List (String × Value))
  | 0, _ => none
  | fuel + 1, cs =>
    match skipSpace cs with
    | '"' :: rest =>
      match readString stand rest with
      | none => none
      | some (name, rest) =>
        match skipSpace rest with
        | ':' :: rest =>
          match readValue stand fuel rest with
          | none => none
          | some (value, rest) =>
            match skipSpace rest with
            | '\x7d' :: rest => some ([(name, value)], rest)
            | ',' :: rest =>
              (readMembers stand fuel rest).map fun (members, rest) =>
                ((name, value) :: members, rest)
            | _ => none
        | _ => none
    | _ => none

end

/-- The document that a text is, with nothing but white space around it. -/
def Value.parse? (text : String) : Option Value :=
  let cs := text.toList
  match readValue none (2 * cs.length + 1) cs with
  | some (value, rest) => if (skipSpace rest).isEmpty then some value else none
  | none => none

end Readiness.Json
