import Readiness.Config.Schema
import Readiness.Failure
import Readiness.Json.Number
import Readiness.Json.Reader
import Readiness.Text.Quoted
import Readiness.Text.Utf8

/-!
The two fields of the agent's own configuration file. Its JSON text is read from front to back: a
reader answers with what it read and the rest of the text, or with the first thing wrong, be it the
text or the type of a field. All other members are skipped.
-/

namespace Readiness.Config

open Decimal (NumberStyle)

structure Agent where
  /-- The directory of the database tables; empty if the file names none. -/
  databasePath : String := ""
  port : UInt16 := defaultPort
  deriving DecidableEq, Repr

namespace Agent

inductive Error
  | malformed
  | type (found expected : String)
  /-- A whole number out of range. -/
  | range (n : Int) (expected : String)
  | duplicate (field : String)
  deriving DecidableEq, Repr

def Error.message : Error → String
  | malformed => Failure.malformedText
  | type found expected => "invalid type: " ++ found ++ ", expected " ++ expected
  | range n expected => "invalid value: integer `" ++ toString n ++ "`, expected " ++ expected
  | duplicate field => "duplicate field `" ++ field ++ "`"

/-- What a reader of JSON read; it can only find the text malformed. -/
def strict {α : Type} : Option α → Except Error α
  | some result => .ok result
  | none => .error .malformed

/-- Floats in messages. -/
def floatStyle : NumberStyle := ⟨-4, 16, true, "e+"⟩

def numberText : Json.Number → String
  | .whole n => "integer `" ++ toString n ++ "`"
  | .negative n => "integer `" ++ toString n ++ "`"
  | .float x => "floating point `" ++ x.text floatStyle ++ "`"

def readNumber (cs : List Char) : Except Error (Json.Number × List Char) := do
  let (literal, rest) ← strict (Json.readNumber cs)
  match Json.Number.ofLiteral? literal with
  | some number => return (number, rest)
  | none => throw .malformed

/-- The error about a value that has the wrong type. As much of the value is read as the message
shows. -/
def wrongType (expected : String) : List Char → Error
  | '"' :: rest =>
    match Json.readString none rest with
    | some (text, _) => .type ("string " ++ Text.quoted text) expected
    | none => .malformed
  | '[' :: _ => .type "sequence" expected
  | '\x7b' :: _ => .type "map" expected
  | 'n' :: rest => word "ull" "null" rest
  | 't' :: rest => word "rue" "boolean `true`" rest
  | 'f' :: rest => word "alse" "boolean `false`" rest
  | c :: rest =>
    if Json.startsNumber c then
      match readNumber (c :: rest) with
      | .ok (number, _) => .type (numberText number) expected
      | .error e => e
    else .malformed
  | [] => .malformed
where
  word (more found : String) (rest : List Char) : Error :=
    match Json.afterWord? more.toList rest with
    | some _ => .type found expected
    | none => .malformed

def readDatabasePath (cs : List Char) : Except Error (String × List Char) :=
  match Json.skipSpace cs with
  | '"' :: rest => strict (Json.readString none rest)
  | cs => .error (wrongType "a string" cs)

def readPort (cs : List Char) : Except Error (UInt16 × List Char) :=
  match Json.skipSpace cs with
  | c :: rest =>
    if Json.startsNumber c then do
      match ← readNumber (c :: rest) with
      | (.whole n, rest) =>
        if n < UInt16.size then return (UInt16.ofNat n, rest) else throw (.range n "u16")
      | (.negative n, _) => throw (.range n "u16")
      | (number, _) => throw (.type (numberText number) "u16")
    else .error (wrongType "u16" (c :: rest))
  | [] => .error .malformed

structure Fields where
  databasePath : Option String := none
  port : Option UInt16 := none

def Fields.agent (f : Fields) : Agent :=
  ⟨f.databasePath.getD "", f.port.getD defaultPort⟩

def readColon (cs : List Char) : Except Error (List Char) :=
  match Json.skipSpace cs with
  | ':' :: rest => .ok rest
  | _ => .error .malformed

/-- The value of a member. A field that came before is refused at its second name. -/
def readMember (fields : Fields) (name : String) (cs : List Char) : Except Error (Fields × List Char) := do
  if name == "database_path" then
    if fields.databasePath.isSome then throw (.duplicate name)
    let (path, rest) ← readDatabasePath (← readColon cs)
    return ({ fields with databasePath := some path }, rest)
  else if name == "port" then
    if fields.port.isSome then throw (.duplicate name)
    let (port, rest) ← readPort (← readColon cs)
    return ({ fields with port := some port }, rest)
  else
    let cs ← readColon cs
    let (_, rest) ← strict (Json.readValue (some Text.Utf8.replacement) (2 * cs.length + 1) cs)
    return (fields, rest)

/-- Members up to the closing brace. Every member has characters of its own, so that the length of
the text bounds their number. -/
def readMembers : Nat → Fields → List Char → Except Error (Fields × List Char)
  | 0, _, _ => .error .malformed
  | fuel + 1, fields, cs =>
    match Json.skipSpace cs with
    | '"' :: rest => do
      let (name, rest) ← strict (Json.readString none rest)
      let (fields, rest) ← readMember fields name rest
      match Json.skipSpace rest with
      | '\x7d' :: rest => return (fields, rest)
      | ',' :: rest => readMembers fuel fields rest
      | _ => throw .malformed
    | _ => .error .malformed

def readObject (cs : List Char) : Except Error (Fields × List Char) :=
  match Json.skipSpace cs with
  | '\x7d' :: rest => .ok ({}, rest)
  | cs => readMembers (cs.length + 1) {} cs

def readArray (cs : List Char) : Except Error (Fields × List Char) :=
  match Json.skipSpace cs with
  | ']' :: rest => .ok ({}, rest)
  | cs => do
    let (path, rest) ← readDatabasePath cs
    match Json.skipSpace rest with
    | ']' :: rest => return (⟨some path, none⟩, rest)
    | ',' :: rest =>
      let (port, rest) ← readPort rest
      match Json.skipSpace rest with
      | ']' :: rest => return (⟨some path, some port⟩, rest)
      | _ => throw .malformed
    | _ => throw .malformed

def parse (text : String) : Except Error Agent := do
  let (fields, rest) ← match Json.skipSpace text.toList with
    | '\x7b' :: rest => readObject rest
    | '[' :: rest => readArray rest
    | cs => throw (wrongType "struct AgentConfig" cs)
  if (Json.skipSpace rest).isEmpty then return fields.agent else throw .malformed

/-- Puts the fields into the parameters of the checks; an empty path leaves theirs. -/
def apply (a : Agent) (s : CheckSettings) : CheckSettings :=
  { s with
    port := a.port
    databasePath := if a.databasePath.isEmpty then s.databasePath else some ⟨a.databasePath⟩ }

end Agent
end Readiness.Config
