/-!
UTF-8: the bytes of a text, strict reading, and reading that puts U+FFFD for what is not UTF-8.
-/

namespace Readiness.Text.Utf8

/-- The character that stands for bytes that are not UTF-8. -/
def replacement : Char := '\uFFFD'

def encodeChar (c : Char) : List UInt8 :=
  let n := c.toNat
  if n < 0x80 then [n.toUInt8]
  else if n < 0x800 then [(0xC0 + n / 0x40).toUInt8, (0x80 + n % 0x40).toUInt8]
  else if n < 0x10000 then
    [(0xE0 + n / 0x1000).toUInt8, (0x80 + n / 0x40 % 0x40).toUInt8, (0x80 + n % 0x40).toUInt8]
  else
    [(0xF0 + n / 0x40000).toUInt8, (0x80 + n / 0x1000 % 0x40).toUInt8,
     (0x80 + n / 0x40 % 0x40).toUInt8, (0x80 + n % 0x40).toUInt8]

def encode (s : String) : List UInt8 :=
  s.toList.flatMap encodeChar

def size (s : String) : Nat := (encode s).length

/-- What a first byte announces: how many bytes follow, the bits it adds, and the range of the
second byte, which excludes overlong forms, surrogates and numbers past the last code point. -/
structure Lead where
  following : Nat
  bits : Nat
  low : Nat
  high : Nat

def lead? (b : Nat) : Option Lead :=
  if 0xC2 ≤ b ∧ b ≤ 0xDF then some ⟨1, b - 0xC0, 0x80, 0xBF⟩
  else if b = 0xE0 then some ⟨2, 0, 0xA0, 0xBF⟩
  else if b = 0xED then some ⟨2, 0xD, 0x80, 0x9F⟩
  else if 0xE1 ≤ b ∧ b ≤ 0xEF then some ⟨2, b - 0xE0, 0x80, 0xBF⟩
  else if b = 0xF0 then some ⟨3, 0, 0x90, 0xBF⟩
  else if b = 0xF4 then some ⟨3, 4, 0x80, 0x8F⟩
  else if 0xF1 ≤ b ∧ b ≤ 0xF3 then some ⟨3, b - 0xF0, 0x80, 0xBF⟩
  else none

/-- A character under way: the bytes still due, the bits so far, and the range of the next byte. -/
structure Pending where
  due : Nat
  bits : Nat
  low : Nat
  high : Nat

/-- What a byte does where a character starts. -/
inductive Start
  | char (c : Char)
  | more (p : Pending)
  | refused

def start (b : UInt8) : Start :=
  if b.toNat < 0x80 then .char (Char.ofNat b.toNat)
  else match lead? b.toNat with
    | some l => .more ⟨l.following, l.bits, l.low, l.high⟩
    | none => .refused

/-- Reads on inside an optional pending character. `stand` is what takes the place of each maximal
run of bytes that begins a character and does not finish it; without it such a run is refused. -/
def decodeFrom (stand : Option Char) : Option Pending → List UInt8 → Option (List Char)
  | none, [] => some []
  | some _, [] => stand.map fun c => [c]
  | pending, b :: rest =>
    match pending.filter fun p => p.low ≤ b.toNat && b.toNat ≤ p.high with
    | some p =>
      let bits := p.bits * 0x40 + (b.toNat - 0x80)
      if p.due ≤ 1 then (decodeFrom stand none rest).map (Char.ofNat bits :: ·)
      else decodeFrom stand (some ⟨p.due - 1, bits, 0x80, 0xBF⟩) rest
    | none =>
      match pending, stand with
      | some _, none => none
      | some _, some c => (next b rest).map (c :: ·)
      | none, _ => next b rest
where
  next (b : UInt8) (rest : List UInt8) : Option (List Char) :=
    match start b with
    | .char c => (decodeFrom stand none rest).map (c :: ·)
    | .more p => decodeFrom stand (some p) rest
    | .refused =>
      match stand with
      | some c => (decodeFrom stand none rest).map (c :: ·)
      | none => none

/-- The text that the bytes encode, if they are UTF-8. -/
def decode? (bytes : List UInt8) : Option String :=
  (decodeFrom none none bytes).map String.ofList

/-- The text with U+FFFD for every maximal run of bytes that is not UTF-8. -/
def decodeLossy (bytes : List UInt8) : String :=
  ((decodeFrom (some replacement) none bytes).map String.ofList).getD ""

end Readiness.Text.Utf8
