import Readiness.Proofs.Ports
import Readiness.Proofs.Rows

/-!
Listings of sockets, in either of their two layouts. A listing written with any sockets, and with
any lines of other kinds between them, is read for the local ports of the TCP sockets that listen,
and for nothing else of it.
-/

namespace Readiness.Ports

open Text (Line Solid Spacing Word)

section Sockets

inductive Protocol where
  | tcp
  | udp
  deriving DecidableEq

/-- Where the protocol is written in capitals the addresses follow it at once; where it is not, the
lengths of two queues come between. -/
inductive Layout where
  | capitals
  | queues (received sent : Nat)

inductive Separator where
  | colon
  | dot

def Separator.char : Separator → Char
  | .colon => ':'
  | .dot => '.'

/-- A host as it is shown, which may be four numbers, an address of version 6 in brackets or
without them, or a star, and the separator of its port. -/
structure Endpoint where
  host : Solid
  separator : Separator

/-- A socket of a listing. Its protocol may go on with a version, its foreign port may be a star,
and it may have no state. -/
structure ListedSocket where
  layout : Layout
  protocol : Protocol
  version : Solid
  localEnd : Endpoint
  localPort : UInt16
  foreignEnd : Endpoint
  foreignPort? : Option UInt16
  state? : Option Word

def Layout.isCapitals : Layout → Bool
  | .capitals => true
  | .queues _ _ => false

def Protocol.name (isCapitals : Bool) : Protocol → List Char
  | .tcp => if isCapitals then ['T', 'C', 'P'] else ['t', 'c', 'p']
  | .udp => if isCapitals then ['U', 'D', 'P'] else ['u', 'd', 'p']

def numberField (n : Nat) : Word := ⟨Nat.toDigits 10 n, Nat.toDigits_ne_nil, Text.isBlank_toDigits⟩

def portChars : Option UInt16 → List Char
  | none => ['*']
  | some port => Nat.toDigits 10 port.toNat

theorem isBlank_portChars (port? : Option UInt16) :
    ∀ c ∈ portChars port?, Text.isBlank c = false := by
  cases port? with
  | none => exact List.forall_mem_singleton.mpr (by decide)
  | some port => exact Text.isBlank_toDigits

theorem Separator.isBlank_char (separator : Separator) : Text.isBlank separator.char = false := by
  cases separator <;> decide

def Endpoint.field (e : Endpoint) (port? : Option UInt16) : Word :=
  .joined e.host e.separator.char e.separator.isBlank_char
    ⟨portChars port?, isBlank_portChars port?⟩

theorem isBlank_name (isCapitals : Bool) (protocol : Protocol) :
    ∀ c ∈ protocol.name isCapitals, Text.isBlank c = false := by
  have hname : (protocol.name isCapitals).any Text.isBlank = false := by
    cases isCapitals <;> cases protocol <;> decide
  exact fun c hc => Bool.eq_false_iff.mpr (List.any_eq_false.mp hname c hc)

def ListedSocket.protocolField (s : ListedSocket) : Word where
  chars := s.protocol.name s.layout.isCapitals ++ s.version.val
  ne_nil := by cases s.protocol <;> cases s.layout <;> exact List.cons_ne_nil _ _
  solid := List.forall_mem_append.mpr ⟨isBlank_name _ _, s.version.2⟩

def Layout.columns : Layout → List Word
  | .capitals => []
  | .queues received sent => [numberField received, numberField sent]

/-- The fields of a socket behind its protocol. -/
def ListedSocket.fields (s : ListedSocket) : List Word :=
  s.layout.columns ++ s.localEnd.field s.localPort :: s.foreignEnd.field s.foreignPort? ::
    s.state?.toList

/-- The row of a socket. -/
def ListedSocket.line (s : ListedSocket) (spacing : Spacing) : Line :=
  ⟨spacing.row (s.protocolField :: s.fields), spacing.newline_not_mem_row _⟩

/-- The state of a socket is one of the two words for listening. -/
def ListedSocket.Listening (s : ListedSocket) : Prop :=
  ∃ field ∈ s.state?, field.chars = "LISTEN".toList ∨ field.chars = "LISTENING".toList

theorem isListening_iff {field : List Char} :
    isListening field = true ↔ field = "LISTEN".toList ∨ field = "LISTENING".toList := by
  rw [isListening, Bool.or_eq_true, beq_iff_eq, beq_iff_eq]

theorem isListening_of_mem {field : List Char} {c : Char} (hc : c ∈ field)
    (hletter : c ∉ "LISTENING".toList) : isListening field = false := by
  refine Bool.eq_false_iff.mpr fun h => ?_
  rcases isListening_iff.mp h with rfl | rfl
  · have hfront : "LISTEN".toList <+: "LISTENING".toList := by decide
    exact hletter (hfront.subset hc)
  · exact hletter hc

theorem isListening_protocolField (s : ListedSocket) : isListening s.protocolField.chars = false := by
  -- Each name of a protocol has the letter P, which neither word for listening has.
  have hletter (isCapitals : Bool) (protocol : Protocol) :
      ∃ c ∈ protocol.name isCapitals, c ∉ "LISTENING".toList := by
    cases isCapitals with
    | true => exact ⟨'P', by cases protocol <;> decide, by decide⟩
    | false => exact ⟨'p', by cases protocol <;> decide, by decide⟩
  obtain ⟨c, hc, hletter⟩ := hletter s.layout.isCapitals s.protocol
  exact isListening_of_mem (List.mem_append_left _ hc) hletter

theorem isListening_endpoint (e : Endpoint) (port? : Option UInt16) :
    isListening (e.field port?).chars = false := by
  have hmem : e.separator.char ∈ (e.field port?).chars := by
    simp [Endpoint.field, Word.joined]
  refine isListening_of_mem hmem ?_
  cases e.separator <;> decide

theorem isListening_numberField (n : Nat) : isListening (numberField n).chars = false := by
  obtain ⟨c, hc⟩ := List.exists_mem_of_ne_nil _ (numberField n).ne_nil
  have hdigit : c.isDigit = true := Nat.isDigit_of_mem_toDigits (by decide) (by decide) hc
  have hletters : "LISTENING".toList.any Char.isDigit = false := by decide
  exact isListening_of_mem hc fun hletter => List.any_eq_false.mp hletters c hletter hdigit

theorem any_isListening_iff (s : ListedSocket) :
    ((s.protocolField :: s.fields).map Word.chars).any isListening = true ↔ s.Listening := by
  have hcolumns : s.layout.columns.any (fun field => isListening field.chars) = false := by
    cases s.layout with
    | capitals => rfl
    | queues received sent =>
        simp only [Layout.columns, List.any_cons, List.any_nil, isListening_numberField,
          Bool.or_false]
  have hstate : (s.state?.toList.any fun field => isListening field.chars) = true ↔ s.Listening := by
    simp only [List.any_eq_true, Option.mem_toList, Option.mem_def, isListening_iff,
      ListedSocket.Listening]
  rw [← hstate, List.any_map]
  simp only [ListedSocket.fields, Function.comp_def, List.any_cons, List.any_append,
    isListening_protocolField, isListening_endpoint, hcolumns, Bool.false_or]

theorem afterLast?_field (e : Endpoint) (port : UInt16) :
    afterLast? (fun c => c = ':' || c = '.') (e.field port).chars =
      some (Nat.toDigits 10 port.toNat) := by
  refine afterLast?_append e.host.val ?_ fun c hc => ?_
  · cases e.separator <;> rfl
  · have hread : Text.readNat? 10 (Nat.toDigits 10 port.toNat) = some port.toNat :=
      Text.readNat?_toDigits (by decide) (by decide) _
    have hcolon : c ≠ ':' := ne_of_mem_of_not_mem hc (Text.not_mem_of_readNat? hread (by decide))
    have hdot : c ≠ '.' := ne_of_mem_of_not_mem hc (Text.not_mem_of_readNat? hread (by decide))
    simp [hcolon, hdot]

/-- The name of the protocol tells it, in either case. -/
theorem protocolField_begins (s : ListedSocket) :
    ((s.protocolField.chars.map Char.toLower).take 3 == "tcp".toList) =
      decide (s.protocol = .tcp) := by
  obtain ⟨layout, protocol, version, _, _, _, _, _⟩ := s
  cases layout <;> cases protocol <;> rfl

/-- The case of the name tells where the local address is. -/
theorem localAddress_eq (s : ListedSocket) (h : s.protocol = .tcp) :
    (if s.protocolField.chars.take 3 == "TCP".toList then (s.fields.map Word.chars)[0]?
      else (s.fields.map Word.chars)[2]?) = some (s.localEnd.field s.localPort).chars := by
  obtain ⟨layout, protocol, version, _, _, _, _, _⟩ := s
  cases h
  cases layout <;> rfl

theorem listingRow?_line_eq_some_iff {s : ListedSocket} {spacing : Spacing} {port : UInt16} :
    listingRow? (s.line spacing).val = some port ↔
      s.protocol = .tcp ∧ s.Listening ∧ s.localPort = port := by
  have hwords : Text.words (s.line spacing).val = (s.protocolField :: s.fields).map Word.chars :=
    spacing.words_row (s.protocolField :: s.fields)
  have hany := any_isListening_iff s
  rw [List.map_cons] at hwords hany
  rw [listingRow?, hwords]
  dsimp only
  rw [protocolField_begins]
  by_cases htcp : s.protocol = .tcp
  · rw [localAddress_eq s htcp, Option.bind_some, afterLast?_field, Option.bind_some, port?_digits]
    by_cases hlistening : s.Listening
    · simp [htcp, hlistening, hany.mpr hlistening]
    · simp [htcp, hlistening, Bool.eq_false_iff.mpr (mt hany.mp hlistening)]
  · simp [htcp]

end Sockets

section Lines

variable {row : List Char} {port : UInt16} {listing : List ListingLine} {closed : Bool}

/-- The first field of a line, if there is one, does not begin with the name of the protocol in
whatever case. -/
def IsOther (row : List Char) : Prop :=
  ∀ field ∈ (Text.words row).head?, ¬ "tcp".toList <+: field.map Char.toLower

/-- A line of a listing: the row of a socket, or any other line. -/
inductive ListingLine where
  | socket (s : ListedSocket) (spacing : Spacing)
  | other (line : Line) (isOther : IsOther line.val)

def ListingLine.line : ListingLine → Line
  | .socket s spacing => s.line spacing
  | .other line _ => line

def ListingLine.socket? : ListingLine → Option ListedSocket
  | .socket s _ => some s
  | .other _ _ => none

/-- The sockets of a listing. -/
def sockets (listing : List ListingLine) : List ListedSocket := listing.filterMap ListingLine.socket?

theorem listingRow?_of_isOther (h : IsOther row) : listingRow? row = none := by
  rw [listingRow?]
  split
  · rfl
  · rename_i protocol fields hwords
    have hfront := h protocol (by rw [hwords]; rfl)
    rw [List.prefix_iff_eq_take] at hfront
    rw [if_neg]
    intro hcond
    exact hfront (beq_iff_eq.mp (Bool.and_eq_true_iff.mp hcond).1).symm

theorem ListingLine.row_eq_some_iff {l : ListingLine} :
    listingRow? l.line.val = some port ↔
      ∃ s, l.socket? = some s ∧ s.protocol = .tcp ∧ s.Listening ∧ s.localPort = port := by
  cases l with
  | socket s spacing =>
      rw [ListingLine.line, listingRow?_line_eq_some_iff]
      simp [ListingLine.socket?]
  | other line isOther =>
      rw [ListingLine.line, listingRow?_of_isOther isOther]
      simp [ListingLine.socket?]

theorem mem_ofListing_written :
    port ∈ ofListing (Text.ofLines (listing.map ListingLine.line) closed) ↔
      ∃ s ∈ sockets listing, s.protocol = .tcp ∧ s.Listening ∧ s.localPort = port := by
  obtain ⟨n, hlines⟩ := Text.lines_ofLines (listing.map ListingLine.line) closed
  have hempty : listingRow? [] ≠ some port := fun h => by cases h
  rw [ofListing, mem_ascending, List.mem_filterMap, hlines, Text.exists_mem_append_empty hempty]
  simp only [List.mem_map, exists_exists_and_eq_and, ListingLine.row_eq_some_iff, sockets,
    List.mem_filterMap]
  grind

/-- What is read of a listing: the local ports of the TCP sockets that listen, in ascending order.
Nothing else of it counts, neither the order of the sockets nor how often each is there. -/
theorem ofListing_lists_listeners :
    (∀ (listing : List ListingLine) (closed : Bool),
      let text := Text.ofLines (listing.map ListingLine.line) closed
      Ascending (ofListing text) ∧ ∀ port, port ∈ ofListing text ↔
        ∃ s ∈ sockets listing, s.protocol = .tcp ∧ s.Listening ∧ s.localPort = port) ∧
    ∀ (listing listing' : List ListingLine) (closed closed' : Bool),
      (∀ s, s ∈ sockets listing ↔ s ∈ sockets listing') →
      ofListing (Text.ofLines (listing.map ListingLine.line) closed) =
        ofListing (Text.ofLines (listing'.map ListingLine.line) closed') := by
  have hascends (text : String) : Ascending (ofListing text) := ascending_ascending _
  refine ⟨fun listing closed => ⟨hascends _, fun port => mem_ofListing_written⟩,
    fun listing listing' closed closed' hsame =>
      (hascends _).eq_of_mem_iff (hascends _) fun port => ?_⟩
  rw [mem_ofListing_written, mem_ofListing_written]
  exact exists_congr fun s => and_congr_left fun _ => hsame s

/-- Either layout, a port of version 6 behind brackets and behind a dot, and rows that do not count. -/
example : ofListing "TCP [::]:445 *:0 LISTENING\r\nudp 0 0 *.5 *.*\ntcp6 0 0 ::1.22 *.* LISTEN" =
    [22, 445] := by decide +kernel

end Lines

end Readiness.Ports
