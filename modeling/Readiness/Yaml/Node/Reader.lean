import Readiness.Yaml.Node
import Readiness.Yaml.Token

/-!
The node that tokens spell. A reader answers with what it read and the tokens that are left. Where
a node may be left out, nothing stands for the empty scalar.
-/

namespace Readiness.Yaml

/-- What the handles of tags stand for, the first entry of a handle counting. -/
abbrev Handles := List (String × List UInt8)

namespace Handles

def standard : Handles :=
  [("!", "!".toUTF8.toList), ("!!", "tag:yaml.org,2002:".toUTF8.toList)]

/-- The bytes of a tag, if its handle is known. -/
def resolve? (handles : Handles) (handle : String) (rest : List UInt8) : Option (List UInt8) :=
  if handle.isEmpty then some rest
  else (handles.lookup handle).map (· ++ rest)

end Handles

/-- Where a node stands: whether blocks may begin there, and whether a list of entries may without
an indentation of its own. -/
inductive Place
  | flow
  | block
  | blockValue
  deriving DecidableEq

/-- The anchor and the tag in front of a node, in either order. A scalar drops the tag that is a
lone exclamation mark. -/
structure Leading where
  anchor : Option String
  tagBytes : Option (List UInt8)

namespace Leading

def isEmpty (l : Leading) : Bool := l.anchor.isNone && l.tagBytes.isNone

def props (l : Leading) : Properties String := ⟨l.anchor, l.tagBytes.map Tag.ofBytes⟩

def scalarProps (l : Leading) : Properties String :=
  if l.tagBytes = some ['!'.toNat.toUInt8] then ⟨l.anchor, none⟩ else l.props

end Leading

def readLeading (handles : Handles) : List Token → Option (Leading × List Token)
  | .anchor name :: .tag handle rest :: tokens
  | .tag handle rest :: .anchor name :: tokens =>
    (handles.resolve? handle rest).map fun bytes => (⟨some name, some bytes⟩, tokens)
  | .anchor name :: tokens => some (⟨some name, none⟩, tokens)
  | .tag handle rest :: tokens =>
    (handles.resolve? handle rest).map fun bytes => (⟨none, some bytes⟩, tokens)
  | tokens => some (⟨none, none⟩, tokens)

/-- The tokens before which a value in a block is left out. -/
def endsBlockValue : List Token → Bool
  | .key :: _ => true
  | .value :: _ => true
  | .blockEnd :: _ => true
  | _ => false

/-- The tokens before which an item of a list in a block is left out. -/
def endsBlockItem : List Token → Bool
  | .blockEntry :: _ => true
  | .blockEnd :: _ => true
  | _ => false

def endsFlowKey (close : Token) : List Token → Bool
  | .value :: _ => true
  | .flowEntry :: _ => true
  | token :: _ => token == close
  | [] => false

def endsFlowValue (close : Token) : List Token → Bool
  | .flowEntry :: _ => true
  | token :: _ => token == close
  | [] => false

/-- The tokens after the comma that all items but the first need. -/
def afterComma (first : Bool) (tokens : List Token) : Option (List Token) :=
  if first then some tokens
  else match tokens with
    | .flowEntry :: tokens => some tokens
    | _ => none

mutual

/-- A node. The first argument bounds the depth of the reading; every token is read at most a few
levels deep. -/
def readNode (handles : Handles) (place : Place) : Nat → List Token → Option (Node String × List Token)
  | 0, _ => none
  | fuel + 1, tokens =>
    match tokens with
    | .reference name :: tokens => some (.reference name, tokens)
    | _ => do
      let (leading, tokens) ← readLeading handles tokens
      match tokens with
      | .blockEntry :: _ =>
        if place = .blockValue then
          let (items, tokens) ← readUnindented handles fuel tokens
          return (.sequence leading.props items, tokens)
        else leftOut leading tokens
      | .scalar text plain :: tokens => some (.scalar leading.scalarProps text plain, tokens)
      | .flowSequenceStart :: tokens =>
        let (items, tokens) ← readFlowItems handles true fuel tokens
        return (.sequence leading.props items, tokens)
      | .flowMappingStart :: tokens =>
        let (entries, tokens) ← readFlowEntries handles true fuel tokens
        return (.mapping leading.props entries, tokens)
      | .blockSequenceStart :: rest =>
        if place = .flow then leftOut leading tokens
        else
          let (items, tokens) ← readBlockItems handles fuel rest
          return (.sequence leading.props items, tokens)
      | .blockMappingStart :: rest =>
        if place = .flow then leftOut leading tokens
        else
          let (entries, tokens) ← readBlockEntries handles fuel rest
          return (.mapping leading.props entries, tokens)
      | _ => leftOut leading tokens
where
  /-- An anchor or a tag alone stands for an empty node. -/
  leftOut (leading : Leading) (tokens : List Token) : Option (Node String × List Token) :=
    if leading.isEmpty then none else some (.scalar leading.props "" true, tokens)

def readBlockItems (handles : Handles) : Nat → List Token → Option (List (Node String) × List Token)
  | 0, _ => none
  | fuel + 1, .blockEntry :: tokens => do
    let (item, tokens) ←
      if endsBlockItem tokens then some (.empty, tokens) else readNode handles .block fuel tokens
    let (items, tokens) ← readBlockItems handles fuel tokens
    return (item :: items, tokens)
  | _ + 1, .blockEnd :: tokens => some ([], tokens)
  | _ + 1, _ => none

/-- The items of a list that stands at the indentation of its key. -/
def readUnindented (handles : Handles) : Nat → List Token → Option (List (Node String) × List Token)
  | 0, _ => none
  | fuel + 1, .blockEntry :: tokens => do
    let (item, tokens) ←
      if endsBlockItem tokens || endsBlockValue tokens then some (.empty, tokens)
      else readNode handles .block fuel tokens
    let (items, tokens) ← readUnindented handles fuel tokens
    return (item :: items, tokens)
  | _ + 1, tokens => some ([], tokens)

def readBlockEntries (handles : Handles) :
    Nat → List Token → Option (List (Node String × Node String) × List Token)
  | 0, _ => none
  | fuel + 1, .key :: tokens => do
    let (key, tokens) ←
      if endsBlockValue tokens then some (.empty, tokens)
      else readNode handles .blockValue fuel tokens
    let (value, tokens) ← match tokens with
      | .value :: tokens =>
        if endsBlockValue tokens then some (.empty, tokens)
        else readNode handles .blockValue fuel tokens
      | _ => some (.empty, tokens)
    let (entries, tokens) ← readBlockEntries handles fuel tokens
    return ((key, value) :: entries, tokens)
  | _ + 1, .blockEnd :: tokens => some ([], tokens)
  | _ + 1, _ => none

/-- The items between square brackets; all but the first come after a comma. An item may be a
mapping of a single entry. -/
def readFlowItems (handles : Handles) (first : Bool) :
    Nat → List Token → Option (List (Node String) × List Token)
  | 0, _ => none
  | _ + 1, .flowSequenceEnd :: tokens => some ([], tokens)
  | fuel + 1, tokens => do
    let tokens ← afterComma first tokens
    match tokens with
    | .flowSequenceEnd :: tokens => some ([], tokens)
    | .key :: tokens =>
      let (key, tokens) ←
        if endsFlowKey .flowSequenceEnd tokens then some (.empty, tokens.drop 1)
        else readNode handles .flow fuel tokens
      let (value, tokens) ← readFlowValue handles .flowSequenceEnd fuel tokens
      let (items, tokens) ← readFlowItems handles false fuel tokens
      return (.mapping ⟨none, none⟩ [(key, value)] :: items, tokens)
    | _ =>
      let (item, tokens) ← readNode handles .flow fuel tokens
      let (items, tokens) ← readFlowItems handles false fuel tokens
      return (item :: items, tokens)

/-- The value after a key between brackets, which may be left out with its colon. -/
def readFlowValue (handles : Handles) (close : Token) :
    Nat → List Token → Option (Node String × List Token)
  | 0, _ => none
  | fuel + 1, .value :: tokens =>
    if endsFlowValue close tokens then some (.empty, tokens)
    else readNode handles .flow fuel tokens
  | _ + 1, tokens => some (.empty, tokens)

/-- The entries between braces; all but the first come after a comma. A node alone is a key. -/
def readFlowEntries (handles : Handles) (first : Bool) :
    Nat → List Token → Option (List (Node String × Node String) × List Token)
  | 0, _ => none
  | _ + 1, .flowMappingEnd :: tokens => some ([], tokens)
  | fuel + 1, tokens => do
    let tokens ← afterComma first tokens
    match tokens with
    | .flowMappingEnd :: tokens => some ([], tokens)
    | .key :: tokens =>
      let (key, tokens) ←
        if endsFlowKey .flowMappingEnd tokens then some (.empty, tokens)
        else readNode handles .flow fuel tokens
      let (value, tokens) ← readFlowValue handles .flowMappingEnd fuel tokens
      let (entries, tokens) ← readFlowEntries handles false fuel tokens
      return ((key, value) :: entries, tokens)
    | _ =>
      let (key, tokens) ← readNode handles .flow fuel tokens
      let (entries, tokens) ← readFlowEntries handles false fuel tokens
      return ((key, .empty) :: entries, tokens)

end

end Readiness.Yaml
