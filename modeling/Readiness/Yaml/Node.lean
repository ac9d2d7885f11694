import Readiness.Text.Utf8

/-!
The nodes of a document as they are written: with their tags and anchors, and with aliases that
are not followed yet.
-/

namespace Readiness.Yaml

inductive Tag
  | null
  | bool
  | int
  | float
  /-- A tag of the document's own, without its exclamation mark. -/
  | own (name : String)
  /-- Any other tag, which makes text of a scalar. -/
  | other
  deriving DecidableEq, Repr, Inhabited

namespace Tag

/-- The name of a local tag; a second exclamation mark counts for as little as the first. -/
def localName (name : String) : String :=
  match name.toList with
  | '!' :: c :: rest => String.ofList (c :: rest)
  | _ => name

def ofBytes (bytes : List UInt8) : Tag :=
  match Text.Utf8.decode? (bytes.takeWhile (· ≠ 0)) with
  | none => other
  | some text =>
    match text.toList with
    | ['!'] => own "!"
    | '!' :: name => own (localName (String.ofList name))
    | _ =>
      if text = "tag:yaml.org,2002:null" then null
      else if text = "tag:yaml.org,2002:bool" then bool
      else if text = "tag:yaml.org,2002:int" then int
      else if text = "tag:yaml.org,2002:float" then float
      else other

end Tag

/-- What may stand before the content of a node. -/
structure Properties (Ref : Type) where
  anchor : Option Ref
  tag : Option Tag
  deriving Repr

/-- A node; `Ref` is what anchors and aliases are known by. -/
inductive Node (Ref : Type)
  | reference (target : Ref)
  | scalar (props : Properties Ref) (text : String) (plain : Bool)
  | sequence (props : Properties Ref) (items : List (Node Ref))
  | mapping (props : Properties Ref) (entries : List (Node Ref × Node Ref))
  deriving Repr

namespace Node

variable {Ref : Type}

instance : Inhabited (Node Ref) := ⟨.scalar ⟨none, none⟩ "" true⟩

/-- The node that nothing stands for. -/
def empty : Node Ref := .scalar ⟨none, none⟩ "" true

def anchor? : Node Ref → Option Ref
  | reference _ => none
  | scalar props _ _ => props.anchor
  | sequence props _ => props.anchor
  | mapping props _ => props.anchor

mutual

/-- The node and all nodes in it, in the order of the text. -/
def preorder : Node Ref → List (Node Ref)
  | .sequence props items => .sequence props items :: preorderItems items
  | .mapping props entries => .mapping props entries :: preorderEntries entries
  | node => [node]

def preorderItems : List (Node Ref) → List (Node Ref)
  | [] => []
  | item :: rest => preorder item ++ preorderItems rest

def preorderEntries : List (Node Ref × Node Ref) → List (Node Ref)
  | [] => []
  | (key, value) :: rest => preorder key ++ preorder value ++ preorderEntries rest

end

/-- The marks that a node leaves in a document: a collection has one for its start and one for its
end. -/
def marks (node : Node Ref) : Nat :=
  (node.preorder.map fun part => match part with
    | .sequence .. => 2
    | .mapping .. => 2
    | _ => 1).foldr (· + ·) 0

end Node
end Readiness.Yaml
