import Readiness.Proofs.Ports
import Readiness.Proofs.Rows

/-!
The kernel's table of sockets. A table written with any sockets is read for the ports of those that
listen, and of any other text only the rows that tell a port count, in whatever order and however
often they are there.
-/

namespace Readiness.Ports

open Text (Line Spacing Word hexadecimal)

section Sockets

theorem afterLast?_colon (host : List Char) {portText : List Char} (h : ':' ∉ portText) :
    afterLast? (· == ':') (host ++ ':' :: portText) = some portText := by
  refine afterLast?_append host ?_ fun c hc => ?_
  · exact beq_self_eq_true ':'
  · exact beq_eq_false_iff_ne.mpr (ne_of_mem_of_not_mem hc h)

theorem afterLast?_of_no_colon {cs : List Char} (h : ':' ∉ cs) :
    afterLast? (· == ':') cs = none :=
  afterLast?_eq_none fun _ hc => beq_eq_false_iff_ne.mpr (ne_of_mem_of_not_mem hc h)

/-- An address in words of 32 bits, one for version 4 and four for version 6. -/
inductive KernelAddress where
  | v4 (word : UInt32)
  | v6 (first second third fourth : UInt32)

def KernelAddress.words : KernelAddress → List UInt32
  | .v4 word => [word]
  | .v6 first second third fourth => [first, second, third, fourth]

def KernelAddress.chars (address : KernelAddress) : List Char :=
  address.words.flatMap fun word => hexadecimal 8 word.toNat

/-- A socket of the table, with the columns that follow its state. -/
structure KernelSocket where
  index : Nat
  localAddress : KernelAddress
  localPort : UInt16
  remoteAddress : KernelAddress
  remotePort : UInt16
  state : UInt8
  columns : List Word

theorem KernelAddress.isBlank_chars (address : KernelAddress) :
    ∀ c ∈ address.chars, Text.isBlank c = false := by
  intro c hc
  obtain ⟨word, -, hc⟩ := List.mem_flatMap.mp hc
  exact Text.isBlank_hexadecimal c hc

/-- An address and a port with a colon between them. -/
def endpoint (address : KernelAddress) (port : UInt16) : Word :=
  .joined ⟨address.chars, address.isBlank_chars⟩ ':' (by decide)
    ⟨hexadecimal 4 port.toNat, Text.isBlank_hexadecimal⟩

def indexField (index : Nat) : Word :=
  .joined ⟨Nat.toDigits 10 index, Text.isBlank_toDigits⟩ ':' (by decide) ⟨[], List.forall_mem_nil _⟩

def stateField (state : UInt8) : Word where
  chars := hexadecimal 2 state.toNat
  ne_nil := Text.hexadecimal_ne_nil _ _
  solid := Text.isBlank_hexadecimal

def KernelSocket.fields (s : KernelSocket) : List Word :=
  indexField s.index :: endpoint s.localAddress s.localPort ::
    endpoint s.remoteAddress s.remotePort :: stateField s.state :: s.columns

/-- The row of a socket. -/
def KernelSocket.line (s : KernelSocket) (spacing : Spacing) : Line :=
  ⟨spacing.row s.fields, spacing.newline_not_mem_row s.fields⟩

theorem stateField_eq_listening_iff {state : UInt8} :
    (stateField state).chars = kernelListening ↔ state = 0x0A := by
  constructor
  · intro h
    have hread := (Text.readNat?_hexadecimal 2 state.toNat).symm.trans (congrArg (Text.readNat? 16) h)
    exact UInt8.toNat_inj.mp (Option.some.inj hread)
  · rintro rfl
    decide

theorem afterLast?_endpoint (address : KernelAddress) (port : UInt16) :
    afterLast? (· == ':') (endpoint address port).chars = some (hexadecimal 4 port.toNat) :=
  afterLast?_colon address.chars
    (Text.not_mem_of_readNat? (Text.readNat?_hexadecimal 4 port.toNat) (by decide))

theorem kernelRow?_line (s : KernelSocket) (spacing : Spacing) :
    kernelRow? (s.line spacing).val = if s.state = 0x0A then some s.localPort else none := by
  have hwords : Text.words (s.line spacing).val = s.fields.map Word.chars :=
    spacing.words_row s.fields
  simp only [kernelRow?, hwords, KernelSocket.fields, List.map_cons, beq_iff_eq,
    stateField_eq_listening_iff, afterLast?_endpoint, Option.bind_some, port?_hexadecimal]

end Sockets

section Lines

variable {line : List Char} {text text' : String} {port : UInt16}

/-- A line that tells no port: it has fewer than four fields, or its second field has no colon, or
no port behind the last one. -/
def Malformed (line : List Char) : Prop :=
  (Text.words line).length < 4 ∨
    ∃ address, (Text.words line)[1]? = some address ∧
      (':' ∉ address ∨ ∃ host portText, address = host ++ ':' :: portText ∧ ':' ∉ portText ∧
        port? 16 portText = none)

theorem kernelRow?_of_malformed (h : Malformed line) : kernelRow? line = none := by
  rw [kernelRow?]
  split
  · rename_i first address third state rest hwords
    rw [Malformed, hwords] at h
    rcases h with hfew | ⟨_, ⟨⟩, haddress⟩
    · simp only [List.length_cons] at hfew
      omega
    · suffices hport : (afterLast? (· == ':') address).bind (port? 16) = none by rw [hport, ite_self]
      rcases haddress with hcolon | ⟨host, portText, rfl, hcolon, hport⟩
      · rw [afterLast?_of_no_colon hcolon, Option.bind_none]
      · rw [afterLast?_colon host hcolon, Option.bind_some, hport]
  · rfl

theorem mem_ofKernelTable :
    port ∈ ofKernelTable text ↔
      ∃ line ∈ (Text.lines text.toList).tail, kernelRow? line = some port := by
  rw [ofKernelTable, mem_ascending, List.mem_filterMap, List.drop_one]

theorem mem_ofKernelTable_written {heading : Line} {rows : List (KernelSocket × Spacing)}
    {closed : Bool} :
    port ∈ ofKernelTable (Text.ofLines (heading :: rows.map fun row => row.1.line row.2) closed) ↔
      ∃ row ∈ rows, row.1.state = 0x0A ∧ row.1.localPort = port := by
  obtain ⟨n, hlines⟩ :=
    Text.lines_ofLines (heading :: rows.map fun row => row.1.line row.2) closed
  have hempty : kernelRow? [] ≠ some port := fun h => by cases h
  rw [mem_ofKernelTable, hlines, List.map_cons, List.cons_append, List.tail_cons,
    Text.exists_mem_append_empty hempty]
  simp only [List.mem_map, exists_exists_and_eq_and, kernelRow?_line, Option.ite_none_right_eq_some,
    Option.some.injEq]

/-- What is read of the kernel's table. From a table written with sockets it is the ports of those
that listen, in ascending order. From any text it ascends, and two texts that have the same lines
behind their first, but for order, repetition and malformed lines, are read alike. -/
theorem ofKernelTable_lists_listeners :
    (∀ (heading : Line) (rows : List (KernelSocket × Spacing)) (closed : Bool),
      let text := Text.ofLines (heading :: rows.map fun row => row.1.line row.2) closed
      Ascending (ofKernelTable text) ∧ ∀ port, port ∈ ofKernelTable text ↔
        ∃ row ∈ rows, row.1.state = 0x0A ∧ row.1.localPort = port) ∧
    (∀ text, Ascending (ofKernelTable text)) ∧
    ∀ text text', (∀ line, ¬ Malformed line →
        (line ∈ (Text.lines text.toList).tail ↔ line ∈ (Text.lines text'.toList).tail)) →
      ofKernelTable text = ofKernelTable text' := by
  have hascends (text : String) : Ascending (ofKernelTable text) := ascending_ascending _
  refine ⟨fun heading rows closed => ⟨hascends _, fun port => mem_ofKernelTable_written⟩, hascends,
    fun text text' hsame => (hascends text).eq_of_mem_iff (hascends text') fun port => ?_⟩
  rw [mem_ofKernelTable, mem_ofKernelTable]
  refine exists_congr fun line => and_congr_left fun hport => hsame line fun hmalformed => ?_
  cases (kernelRow?_of_malformed hmalformed).symm.trans hport

/-- The second row is of a connection, and the third has a number for a port that is none. -/
example : ofKernelTable "sl\n0: 7F:2253 0:0 0A\n1: 0:1BB 7F:0 01\n2: 0:10000 0:0 0A\n3: 0:16 0:0 0A" =
    [22, 8787] := by decide +kernel

end Lines

end Readiness.Ports
