import Readiness.Yaml.Token.Scalar
import Readiness.Yaml.Token.Tag

/-!
The tokens of a text. Indentation opens and closes blocks, and a colon may turn a node that came
before it on its line into a key: such a node is remembered, and the tokens that mark it as a key
are put in front of it when its colon is found.
-/

namespace Readiness.Yaml

/-- A node that may turn out to be a key. -/
structure Candidate where
  /-- Whether its place in a block allows nothing else. -/
  required : Bool
  /-- The number of tokens in front of it. -/
  index : Nat
  line : Nat
  column : Nat

structure Lexer where
  cursor : Cursor
  /-- The tokens so far, the last first, and their number. -/
  tokens : List Token
  count : Nat
  blocks : List Nat
  /-- The candidate at the innermost level of brackets, and those at the outer levels. -/
  candidate : Option Candidate
  outer : List (Option Candidate)
  /-- Whether a key may begin here. -/
  keyAllowed : Bool

namespace Lexer

/-- The lexer at the start of a text. A byte order mark there is skipped. -/
def start (cs : List Char) : Lexer :=
  let cursor : Cursor := match cs with
    | '\uFEFF' :: rest => ⟨0, 1, rest⟩
    | _ => ⟨0, 0, cs⟩
  ⟨cursor, [], 0, [], none, [], true⟩

def inFlow (l : Lexer) : Bool := !l.outer.isEmpty

def emit (token : Token) (l : Lexer) : Lexer :=
  { l with tokens := token :: l.tokens, count := l.count + 1 }

/-- Puts tokens behind the first `index` of them. -/
def insertAt (index : Nat) (new : List Token) (l : Lexer) : Lexer :=
  let after := l.count - index
  { l with
    tokens := l.tokens.take after ++ new.reverse ++ l.tokens.drop after
    count := l.count + new.length }

def moveTo (cursor : Cursor) (l : Lexer) : Lexer := { l with cursor := cursor }

def skip (count : Nat) (l : Lexer) : Lexer := l.moveTo (l.cursor.skip count)

def allowKey (allowed : Bool) (l : Lexer) : Lexer := { l with keyAllowed := allowed }

/-- The cursor at the next token, and whether a line break on the way allows a key. Tabs count as
space where no key may begin. -/
def toToken (flow allowed comment : Bool) (line column : Nat) : List Char → Cursor × Bool
  | [] => (⟨line, column, []⟩, allowed)
  | c :: rest =>
    if isBreak c then toToken flow (allowed || !flow) false (line + 1) 0 rest
    else if comment || c = ' ' || (c = '\t' && (flow || !allowed)) then
      toToken flow allowed comment line (column + 1) rest
    else if c = '#' then toToken flow allowed true line (column + 1) rest
    else (⟨line, column, c :: rest⟩, allowed)

def skipSpace (l : Lexer) : Lexer :=
  let (cursor, allowed) :=
    toToken l.inFlow l.keyAllowed false l.cursor.line l.cursor.column l.cursor.rest
  { l with cursor := cursor, keyAllowed := allowed }

/-- A key must end on its line, and its colon follow within 1024 characters. -/
def Candidate.isStale (here : Cursor) (k : Candidate) : Bool :=
  k.line < here.line || k.column + 1024 < here.column

/-- A candidate that is still good; a required one must not go stale. -/
def refresh (here : Cursor) : Option Candidate → Option (Option Candidate)
  | none => some none
  | some k =>
    if Candidate.isStale here k then if k.required then none else some none else some (some k)

def dropStale (l : Lexer) : Option Lexer := do
  let candidate ← refresh l.cursor l.candidate
  let outer ← l.outer.mapM (refresh l.cursor)
  return { l with candidate := candidate, outer := outer }

/-- Forgets the candidate, which must not be a required one. -/
def dropCandidate (l : Lexer) : Option Lexer :=
  if l.candidate.any (·.required) then none else some { l with candidate := none }

/-- Remembers the node that begins here, if a key may begin here. -/
def saveCandidate (l : Lexer) : Option Lexer :=
  if l.keyAllowed then
    let required := !l.inFlow && l.blocks.head? == some l.cursor.column
    l.dropCandidate.map fun l =>
      { l with candidate := some ⟨required, l.count, l.cursor.line, l.cursor.column⟩ }
  else some l

/-- Closes the blocks that `keeps` does not keep. -/
def closeFrom (keeps : Nat → Bool) : List Nat → Lexer → Lexer
  | [], l => { l with blocks := [] }
  | column :: blocks, l =>
    if keeps column then { l with blocks := column :: blocks }
    else closeFrom keeps blocks (l.emit .blockEnd)

/-- Closes the blocks to the right of a column. -/
def closeBlocks (column : Nat) (l : Lexer) : Lexer :=
  if l.inFlow then l else closeFrom (· ≤ column) l.blocks l

def closeAll (l : Lexer) : Lexer :=
  if l.inFlow then l else closeFrom (fun _ => false) l.blocks l

/-- Opens a block at a column, with its token behind the first `index`, unless that column has one. -/
def openBlock (column index : Nat) (token : Token) (l : Lexer) : Lexer :=
  if l.inFlow || l.blocks.head?.any (column ≤ ·) then l
  else { l.insertAt index [token] with blocks := column :: l.blocks }

/-- Opens a block here, where it must be allowed outside brackets. -/
def openHere (token : Token) (l : Lexer) : Option Lexer :=
  if l.inFlow then some l
  else if l.keyAllowed then some (l.openBlock l.cursor.column l.count token)
  else none

def directive (l : Lexer) : Option Lexer := do
  let l ← l.closeAll.dropCandidate
  let (token, rest) ← readDirective (l.cursor.rest.drop 1)
  let broken := rest.any isBreak
  let after ← endLine? rest
  let cursor : Cursor := if broken then ⟨l.cursor.line + 1, 0, after⟩ else l.cursor.goTo after
  return ((l.emit token).moveTo cursor).allowKey false

def marker (token : Token) (l : Lexer) : Option Lexer := do
  let l ← l.closeAll.dropCandidate
  return ((l.emit token).skip 3).allowKey false

def flowStart (token : Token) (l : Lexer) : Option Lexer := do
  let l ← l.saveCandidate
  let l := { l with outer := l.candidate :: l.outer, candidate := none }
  return ((l.emit token).skip 1).allowKey true

def flowEnd (token : Token) (l : Lexer) : Option Lexer := do
  let l ← l.dropCandidate
  let l := match l.outer with
    | [] => l
    | candidate :: outer => { l with candidate := candidate, outer := outer }
  return ((l.emit token).skip 1).allowKey false

def flowEntry (l : Lexer) : Option Lexer := do
  let l ← l.dropCandidate
  return ((l.emit .flowEntry).skip 1).allowKey true

def blockEntry (l : Lexer) : Option Lexer := do
  let l ← (← l.openHere .blockSequenceStart).dropCandidate
  return ((l.emit .blockEntry).skip 1).allowKey true

def explicitKey (l : Lexer) : Option Lexer := do
  let l ← (← l.openHere .blockMappingStart).dropCandidate
  return ((l.emit .key).skip 1).allowKey (!l.inFlow)

/-- A colon makes a key of the candidate; without one it begins a value whose key is empty or came
after a question mark. -/
def value (l : Lexer) : Option Lexer :=
  match l.candidate with
  | some k =>
    let l := { l with candidate := none }
    let l := (l.insertAt k.index [.key]).openBlock k.column k.index .blockMappingStart
    some (((l.emit .value).skip 1).allowKey false)
  | none =>
    (l.openHere .blockMappingStart).map fun l =>
      ((l.emit .value).skip 1).allowKey (!l.inFlow)

/-- Whether a name may end here. -/
def endsName (rest : List Char) : Bool :=
  endsToken rest || rest.head?.any "?:,]\x7d%@`".toList.contains

/-- An anchor or an alias, after its sign. -/
def named (token : String → Token) (l : Lexer) : Option Lexer := do
  let l ← l.saveCandidate
  let body := l.cursor.rest.drop 1
  let name := body.takeWhile isNameChar
  let rest := body.dropWhile isNameChar
  if name.isEmpty || !endsName rest then none
  else some (((l.emit (token (String.ofList name))).moveTo (l.cursor.goTo rest)).allowKey false)

def tag (l : Lexer) : Option Lexer := do
  let l ← l.saveCandidate
  let (token, rest) ← readTag (l.cursor.rest.drop 1)
  if endsToken rest || (l.inFlow && rest.head? == some ',') then
    some (((l.emit token).moveTo (l.cursor.goTo rest)).allowKey false)
  else none

def block (folded : Bool) (l : Lexer) : Option Lexer := do
  let l ← l.dropCandidate
  let (text, cursor) ← blockScalar folded l.blocks.head? (l.cursor.skip 1)
  return ((l.emit (.scalar text false)).moveTo cursor).allowKey true

def quoted (double : Bool) (l : Lexer) : Option Lexer := do
  let l ← l.saveCandidate
  let ⟨line, column, rest⟩ := l.cursor.skip 1
  let read := if double then readDoubleQuoted line column rest else readSingleQuoted line column rest
  let (text, cursor) ← quotedScalar read
  return ((l.emit (.scalar text false)).moveTo cursor).allowKey false

def plain (l : Lexer) : Option Lexer := do
  let l ← l.saveCandidate
  let indent := match l.blocks.head? with
    | some column => column + 1
    | none => 0
  let (text, cursor, broken) ← plainScalar ⟨l.inFlow, indent⟩ l.cursor
  return ((l.emit (.scalar text true)).moveTo cursor).allowKey broken

/-- Whether a plain scalar may begin with a character before `rest`. A dash may where no blank
follows, and so may a question mark and a colon outside brackets. -/
def startsPlain (flow : Bool) (c : Char) (rest : List Char) : Bool :=
  if c = '-' then !rest.head?.any isBlank
  else if c = '?' || c = ':' then !flow && !endsToken rest
  else !(isBlank c || isFlowIndicator c || "#&*!|>'\"%@`".toList.contains c)

/-- The token that begins with a character before `rest`. -/
def tokenAt (c : Char) (rest : List Char) (l : Lexer) : Option Lexer :=
  let top := l.cursor.column == 0
  if top && c = '%' then l.directive
  else if isMarker l.cursor.column (c :: rest) then
    l.marker (if c = '-' then .documentStart else .documentEnd)
  else if c = '[' then l.flowStart .flowSequenceStart
  else if c = '\x7b' then l.flowStart .flowMappingStart
  else if c = ']' then l.flowEnd .flowSequenceEnd
  else if c = '\x7d' then l.flowEnd .flowMappingEnd
  else if c = ',' then l.flowEntry
  else if c = '-' && endsToken rest then l.blockEntry
  else if c = '?' && (l.inFlow || endsToken rest) then l.explicitKey
  else if c = ':' && (l.inFlow || endsToken rest) then l.value
  else if c = '*' then l.named .reference
  else if c = '&' then l.named .anchor
  else if c = '!' then l.tag
  else if c = '|' && !l.inFlow then l.block false
  else if c = '>' && !l.inFlow then l.block true
  else if c = '\'' then l.quoted false
  else if c = '"' then l.quoted true
  else if startsPlain l.inFlow c rest then l.plain
  else none

/-- Reads on to the end of the text. Every token takes a character at least, so that their number
bounds the steps. -/
def run : Nat → Lexer → Option (List Token)
  | 0, _ => none
  | fuel + 1, l => do
    let l ← l.skipSpace.dropStale
    let l := l.closeBlocks l.cursor.column
    match l.cursor.rest with
    | [] => do
      let l ← l.closeAll.dropCandidate
      return l.tokens.reverse
    | c :: rest => run fuel (← l.tokenAt c rest)

end Lexer

def Token.ofText? (text : String) : Option (List Token) :=
  let cs := text.toList
  if cs.all isPermitted then
    let cs := unifyBreaks cs
    (Lexer.start cs).run (cs.length + 1)
  else none

end Readiness.Yaml
