import Readiness.Yaml.Value

/-!
Layers of configuration merged into one value. Mappings are merged entry by entry; a later null
takes an entry away, and anything else replaces what was there.
-/

namespace Readiness.Config

open Yaml (Value Entries)

mutual

/-- `base` with `overlay` laid over it. -/
def overlaid (base : Value) : Value → Value
  | .mapping entries =>
    match base with
    | .mapping old => .mapping (overlaidEntries old old entries)
    | _ => .mapping entries
  | overlay => overlay

/-- `result` with entries laid over it; what an entry is laid over comes from `old`. -/
def overlaidEntries (old result : Entries) : Entries → Entries
  | [] => result
  | (key, value) :: rest =>
    let merged :=
      if value.isNull then result.erase key
      else match old.get? key with
        | some before => result.insert key (overlaid before value)
        | none => result.insert key value
    overlaidEntries old merged rest

end

/-- All layers merged, the first the lowest. A layer that is null changes nothing. -/
def mergeLayers (layers : List Value) : Value :=
  (layers.filter fun layer => !layer.isNull).foldl overlaid (.mapping [])

end Readiness.Config
