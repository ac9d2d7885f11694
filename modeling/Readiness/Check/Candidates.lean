import Readiness.Host.Probe

/-!
The search of the configuration store for the first of several keys that is accepted.
-/

namespace Readiness

/-- How a search ends. -/
inductive Search (α : Type)
  | found (a : α)
  /-- A key could be looked up, and none was accepted. -/
  | notFound
  /-- Every look-up failed; the error is the last one's. -/
  | failed (e : ProbeError)
  deriving Repr

namespace Search

variable {α : Type}

/-- What a search that ends without a find has come to: the last error, and whether any look-up
went well. -/
structure State where
  lastError : Option ProbeError := none
  readable : Bool := false

def State.conclude (s : State) : Search α :=
  match s.lastError with
  | some e => if s.readable then notFound else failed e
  | none => notFound

/-- Looks up the keys one after the other until one is accepted with its values. -/
def scanFrom (accept : String → StoreKey → Probe (Option α)) :
    State → List String → Probe (Search α)
  | s, [] => return s.conclude
  | s, key :: keys => do
    match ← Probe.query (.storeKey key) with
    | .ok (some values) =>
      match ← accept key values with
      | some a => return found a
      | none => scanFrom accept { s with readable := true } keys
    | .ok none => scanFrom accept { s with readable := true } keys
    | .error e => scanFrom accept { s with lastError := some e } keys

def scan (keys : List String) (accept : String → StoreKey → Probe (Option α)) : Probe (Search α) :=
  scanFrom accept {} keys

end Search
end Readiness
