import Readiness.Yaml.Node.Link
import Readiness.Yaml.Node.Reader
import Readiness.Yaml.Plain
import Readiness.Yaml.Token.Lexer

/-!
Texts as YAML values. A text holds one document at most. Text that is no YAML is refused without a
reason, and so are repeated keys, unknown aliases, whole numbers out of range, deep nesting, and
aliases that multiply without end.
-/

namespace Readiness.Yaml

/-- What loading works on: the whole document, and how often an alias may be followed. -/
structure Linked where
  root : Node Nat
  allowance : Nat

namespace Linked

/-- Loading counts the aliases that it follows. -/
abbrev Load := StateT Nat Option

/-- The node that an alias stands for, or the node itself. -/
def follow (d : Linked) : Node Nat → Load (Node Nat)
  | .reference number => do
    let followed := (← get) + 1
    set followed
    if d.allowance < followed then failure
    match d.root.target? number with
    | some node => return node
    | none => failure
  | node => return node

/-- The value of a scalar. A tag of YAML's own insists on its kind; `bare` says that the tag has
been taken off. -/
def scalar (bare : Bool) (tag : Option Tag) (text : String) (plain : Bool) : Option Value :=
  match bare, tag with
  | false, some .null => if Plain.isNullWord text then some .null else none
  | false, some .bool => (Plain.bool? text).map .bool
  | false, some .int =>
    match Plain.whole text.toList with
    | .value n => some (.int n)
    | _ => none
  | false, some .float => (Plain.float? text).map .float
  | false, some _ => some (.string text)
  | _, _ => if plain then Plain.value? text else some (.string text)

/-- The name of a local tag that has not been taken off yet. -/
def localName? (bare : Bool) (tag : Option Tag) : Option String :=
  match bare, tag with
  | false, some (.own name) => some name
  | _, _ => none

/-- A value under the tag of its node. The keys of a tagged mapping lose their own tags. -/
def wrap (name? : Option String) (content : Value) : Value :=
  match name? with
  | some name => .tagged name content
  | none => content

/-- The value of a node. `depth` is how deep collections may nest from here on. -/
def load (d : Linked) (bare : Bool) : Nat → Node Nat → Load Value
  | depth, node => do
    match ← d.follow node with
    | .reference _ => failure
    | .scalar props text plain =>
      let name? := localName? bare props.tag
      let content ← (scalar (bare || name?.isSome) props.tag text plain : Option Value)
      return wrap name? content
    | .sequence props items =>
      match depth with
      | 0 => failure
      | depth + 1 =>
        let items ← items.mapM (load d false depth)
        return wrap (localName? bare props.tag) (.sequence items)
    | .mapping props entries =>
      match depth with
      | 0 => failure
      | depth + 1 =>
        let name? := localName? bare props.tag
        let entries ← entries.foldlM (fun (done : Entries) (key, value) => do
          let key ← load d (bare || name?.isSome) depth key
          if (done.get? key).isSome then failure
          let value ← load d false depth value
          return done ++ [(key, value)]) []
        return wrap name? (.mapping entries)

def maxDepth : Nat := 128

end Linked

/-- The directives of a document and the handles they give: at most one version, which must be 1.1
or 1.2, and no handle twice. -/
def readDirectives (versioned : Bool) (handles : Handles) :
    List Token → Option (Handles × List Token)
  | .version major minor :: tokens =>
    if versioned || major != 1 || (minor != 1 && minor != 2) then none
    else readDirectives true handles tokens
  | .handle handle start :: tokens =>
    if (handles.lookup handle).isSome then none
    else readDirectives versioned (handles ++ [(handle, start)]) tokens
  | tokens => some (handles ++ Handles.standard, tokens)

/-- Whether the content of a document that has been opened is left out. -/
def endsDocument : List Token → Bool
  | [] => true
  | .documentStart :: _ => true
  | .documentEnd :: _ => true
  | .version .. :: _ => true
  | .handle .. :: _ => true
  | _ => false

/-- Whether a document begins with a directive or with its marker. -/
def opensDocument : List Token → Bool
  | .documentStart :: _ => true
  | .version .. :: _ => true
  | .handle .. :: _ => true
  | _ => false

/-- The root of the only document; nothing but end markers may follow it. -/
def Node.ofTokens? (tokens : List Token) : Option (Node String) := do
  let fuel := 8 * tokens.length + 8
  let read (handles : Handles) (tokens : List Token) : Option (Node String × List Token) :=
    if endsDocument tokens then some (.empty, tokens) else readNode handles .block fuel tokens
  let (root, rest) ←
    if opensDocument tokens then do
      let (handles, tokens) ← readDirectives false [] tokens
      match tokens with
      | .documentStart :: tokens => read handles tokens
      | _ => none
    else if tokens.isEmpty then some (.empty, [])
    else readNode Handles.standard .block fuel tokens
  if (rest.dropWhile (· == .documentEnd)).isEmpty then some root else none

/-- The value of the only document of a text; an empty text is null. -/
def Value.parse? (text : String) : Option Value := do
  let root ← Node.ofTokens? (← Token.ofText? text)
  let (root, _) ← root.link []
  let document : Linked := ⟨root, 100 * root.marks⟩
  let (value, _) ← (document.load false Linked.maxDepth root).run 0
  return value

end Readiness.Yaml
