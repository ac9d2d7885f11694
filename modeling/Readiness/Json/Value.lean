/-!
JSON documents. Numbers keep the literal they were written with, and objects the order of their
members.
-/

namespace Readiness.Json

/-- A number literal: a sign, whole digits, digits after a point, and a power of ten. -/
structure Literal where
  negative : Bool
  whole : List Char
  fraction : List Char
  exponent : Option Int
  deriving DecidableEq, Repr, Inhabited

namespace Literal

def ofNat (n : Nat) : Literal := ⟨false, Nat.toDigits 10 n, [], none⟩

def isWhole (l : Literal) : Bool := l.fraction.isEmpty && l.exponent.isNone

end Literal

inductive Value
  | null
  | bool (b : Bool)
  | number (literal : Literal)
  | string (text : String)
  | array (items : List Value)
  | object (members : List (String × Value))
  deriving Repr, Inhabited

namespace Value

def nat (n : Nat) : Value := .number (.ofNat n)

def member? (name : String) : Value → Option Value
  | .object members => (members.find? fun (key, _) => key == name).map (·.2)
  | _ => none

end Value
end Readiness.Json
