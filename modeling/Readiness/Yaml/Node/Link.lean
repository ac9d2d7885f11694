import Readiness.Yaml.Node

/-!
Anchors and aliases by number. An anchor is numbered by how many names come before it; an alias
has the number of the last anchor of its name, and stands for the last node of that number in the
whole document.
-/

namespace Readiness.Yaml

/-- The names of the anchors so far, each once, with their numbers. -/
abbrev AnchorNames := List (String × Nat)

namespace AnchorNames

def insert (name : String) (number : Nat) : AnchorNames → AnchorNames
  | [] => [(name, number)]
  | (other, old) :: rest =>
    if other = name then (name, number) :: rest else (other, old) :: insert name number rest

/-- The properties of a node, with its anchor numbered. -/
def number (names : AnchorNames) (props : Properties String) : Properties Nat × AnchorNames :=
  match props.anchor with
  | none => (⟨none, props.tag⟩, names)
  | some name => (⟨some names.length, props.tag⟩, insert name names.length names)

end AnchorNames

namespace Node

mutual

/-- The node with numbers, if every alias has an anchor in front of it. -/
def link (names : AnchorNames) : Node String → Option (Node Nat × AnchorNames)
  | .reference name => (names.lookup name).map fun n => (.reference n, names)
  | .scalar props text plain =>
    let (props, names) := names.number props
    some (.scalar props text plain, names)
  | .sequence props items =>
    let (props, names) := names.number props
    (linkItems names items).map fun (items, names) => (.sequence props items, names)
  | .mapping props entries =>
    let (props, names) := names.number props
    (linkEntries names entries).map fun (entries, names) => (.mapping props entries, names)

def linkItems (names : AnchorNames) : List (Node String) → Option (List (Node Nat) × AnchorNames)
  | [] => some ([], names)
  | item :: rest => do
    let (item, names) ← link names item
    let (rest, names) ← linkItems names rest
    return (item :: rest, names)

def linkEntries (names : AnchorNames) :
    List (Node String × Node String) → Option (List (Node Nat × Node Nat) × AnchorNames)
  | [] => some ([], names)
  | (key, value) :: rest => do
    let (key, names) ← link names key
    let (value, names) ← link names value
    let (rest, names) ← linkEntries names rest
    return ((key, value) :: rest, names)

end

/-- The last node of a number, in the order of the text. -/
def target? (root : Node Nat) (number : Nat) : Option (Node Nat) :=
  root.preorder.reverse.find? fun node => node.anchor? == some number

end Node
end Readiness.Yaml
