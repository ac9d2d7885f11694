import Readiness.Text.Blank

/-!
Keys of the configuration store. The values of a key have names, which are kept as they were
written, in ascending order, and found whatever their case.
-/

namespace Readiness

inductive StoreValue
  | text (text : String)
  | number (n : UInt64)
  deriving DecidableEq, Repr

namespace StoreValue

def text? : StoreValue → Option String
  | text t => some t
  | number _ => none

def number? : StoreValue → Option UInt64
  | text _ => none
  | number n => some n

end StoreValue

structure StoreKey where
  values : List (String × StoreValue) := []
  deriving DecidableEq, Repr

namespace StoreKey

def insertValue (name : String) (value : StoreValue) :
    List (String × StoreValue) → List (String × StoreValue)
  | [] => [(name, value)]
  | (other, old) :: rest =>
    if name = other then (name, value) :: rest
    else if name < other then (name, value) :: (other, old) :: rest
    else (other, old) :: insertValue name value rest

/-- Sets the value of a name; a name in another case is another value. -/
def insert (name : String) (value : StoreValue) (k : StoreKey) : StoreKey :=
  ⟨insertValue name value k.values⟩

/-- The first value whose name is the given one but for case. -/
def get? (name : String) (k : StoreKey) : Option StoreValue :=
  (k.values.find? fun (other, _) => Text.eqIgnoringCase other name).map (·.2)

def text? (name : String) (k : StoreKey) : Option String := (k.get? name).bind StoreValue.text?

def number? (name : String) (k : StoreKey) : Option UInt64 :=
  (k.get? name).bind StoreValue.number?

def size (k : StoreKey) : Nat := k.values.length

end StoreKey
end Readiness
