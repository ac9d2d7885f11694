import Readiness.Decimal.Binary64

/-!
YAML values. A mapping keeps the order of its entries; two mappings are the same value when they
hold the same entries in any order.
-/

namespace Readiness.Yaml

open Decimal (Binary64)

inductive Value
  | null
  | bool (b : Bool)
  | int (n : Int)
  | float (x : Binary64)
  | string (text : String)
  | sequence (items : List Value)
  | mapping (entries : List (Value × Value))
  /-- A value under a local tag; the name comes without its exclamation mark. -/
  | tagged (name : String) (content : Value)
  deriving Repr, Inhabited

namespace Value

mutual

/-- Equality of values. A whole number never equals a float, and the order of entries is free. -/
def same : Value → Value → Bool
  | null, null => true
  | bool a, bool b => a == b
  | int a, int b => a == b
  | float a, float b => a.sameValue b
  | string a, string b => a == b
  | sequence as, sequence bs => sameItems as bs
  | mapping as, mapping bs => as.length == bs.length && entriesIn bs as
  | tagged a x, tagged b y => a == b && same x y
  | _, _ => false

def sameItems : List Value → List Value → Bool
  | [], [] => true
  | a :: as, b :: bs => same a b && sameItems as bs
  | _, _ => false

/-- Whether each of the entries of a mapping is among `others`. -/
def entriesIn (others : List (Value × Value)) : List (Value × Value) → Bool
  | [] => true
  | (key, value) :: rest =>
    (others.any fun (key', value') => same key key' && same value value') &&
      entriesIn others rest

end

/-- The value inside all tags. -/
def untagged : Value → Value
  | tagged _ content => untagged content
  | v => v

/-- Whether a value is null, under tags or not. -/
def isNull (v : Value) : Bool :=
  match v.untagged with
  | null => true
  | _ => false

end Value

/-- The entries of a mapping, no two of which have the same key. -/
abbrev Entries := List (Value × Value)

namespace Entries

def get? (key : Value) (entries : Entries) : Option Value :=
  (entries.find? fun (other, _) => other.same key).map (·.2)

/-- Puts a value in the place of the one that the key has, or a new entry at the end. -/
def insert (key value : Value) : Entries → Entries
  | [] => [(key, value)]
  | (other, old) :: rest =>
    if other.same key then (other, value) :: rest else (other, old) :: insert key value rest

/-- Removes the entry of a key; the last entry moves into its place. -/
def erase (key : Value) (entries : Entries) : Entries :=
  match entries.findIdx? fun (other, _) => other.same key with
  | none => entries
  | some i =>
    match entries.getLast? with
    | some last => (entries.set i last).dropLast
    | none => entries

end Entries
end Readiness.Yaml
