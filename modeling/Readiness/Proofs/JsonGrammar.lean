import Readiness.Proofs.JsonReading
import Readiness.Proofs.Numerals

/-!
The grammar of JSON texts, and what the reader makes of it: whatever the grammar derives as a value
is read, and nothing behind it is. A string gives its characters where every escape in it stands
for one; half a surrogate pair alone stands for none.
-/

namespace Readiness.Json

section Strings

/-- The letters of the short escapes, with the characters that they stand for. -/
def escapes : List (Char × Char) :=
  [('"', '"'), ('\\', '\\'), ('/', '/'), ('b', '\x08'), ('f', '\x0c'), ('n', '\n'), ('r', '\r'),
   ('t', '\t')]

/-- Four hexadecimal digits. -/
def UnitText (n : Nat) (digits : List Char) : Prop :=
  digits.length = 4 ∧ Text.readNat? 16 digits = some n

/-- A character that may stand in a string as it is. -/
def isPlain (c : Char) : Bool := c != '"' && c != '\\' && 0x20 ≤ c.toNat

/-- What may stand between the quotes of a string for a piece of it. -/
inductive PieceText : Piece → List Char → Prop
  | plain {c : Char} (h : isPlain c = true) : PieceText (.char c) [c]
  | short {letter c : Char} (h : (letter, c) ∈ escapes) : PieceText (.char c) ['\\', letter]
  | unit {n : Nat} {digits : List Char} (h : UnitText n digits) :
    PieceText (.ofUnit n) ('\\' :: 'u' :: digits)

inductive StringText : List Piece → List Char → Prop
  | nil : StringText [] []
  | cons {p : Piece} {pieces : List Piece} {cs more : List Char} (h : PieceText p cs)
    (hmore : StringText pieces more) : StringText (p :: pieces) (cs ++ more)

/-- How a character may be written in a string: as it is, or escaped in one unit or in a pair. -/
inductive CharText (c : Char) : List Char → Prop
  | plain (h : isPlain c = true) : CharText c [c]
  | short {letter : Char} (h : (letter, c) ∈ escapes) : CharText c ['\\', letter]
  | unit {digits : List Char} (h : UnitText c.toNat digits) : CharText c ('\\' :: 'u' :: digits)
  | pair {high low : Nat} {digits digits' : List Char} (hhigh : UnitText high digits)
    (hlow : UnitText low digits') (hfirst : 0xD800 ≤ high ∧ high ≤ 0xDBFF)
    (hsecond : 0xDC00 ≤ low ∧ low ≤ 0xDFFF)
    (hc : c.toNat = 0x10000 + (high - 0xD800) * 0x400 + (low - 0xDC00)) :
    CharText c ('\\' :: 'u' :: digits ++ '\\' :: 'u' :: digits')

/-- The text between the quotes of a string that gives these characters. -/
inductive Spells : List Char → List Char → Prop
  | nil : Spells [] []
  | cons {c : Char} {text cs more : List Char} (h : CharText c cs) (hmore : Spells text more) :
    Spells (c :: text) (cs ++ more)

variable {stand : Option Char} {p : Piece} {pieces : List Piece} {text cs rest : List Char}

theorem Spells.append {text' cs' : List Char} (h : Spells text cs) (h' : Spells text' cs') :
    Spells (text ++ text') (cs ++ cs') := by
  induction h with
  | nil => exact h'
  | cons hchar hmore ih =>
      rw [List.append_assoc]
      exact .cons hchar ih

theorem spells_self (h : cs.all isPlain = true) : Spells cs cs := by
  induction cs with
  | nil => exact .nil
  | cons c cs ih =>
      rw [List.all_cons, Bool.and_eq_true] at h
      exact .cons (.plain h.1) (ih h.2)

theorem readPieces_piece (h : PieceText p cs) (rest : List Char) :
    readPieces (cs ++ rest) = (readPieces rest).map fun (pieces, rest) => (p :: pieces, rest) := by
  cases h with
  | @plain c h =>
      simp only [isPlain, Bool.and_eq_true, bne_iff_ne, decide_eq_true_eq] at h
      obtain ⟨⟨hquote, hback⟩, hcontrol⟩ := h
      rw [List.singleton_append, readPieces.eq_def]
      split <;> simp_all
  | short h =>
      simp only [escapes, List.mem_cons, Prod.mk.injEq, List.not_mem_nil, or_false] at h
      rcases h with ⟨rfl, rfl⟩ | ⟨rfl, rfl⟩ | ⟨rfl, rfl⟩ | ⟨rfl, rfl⟩ | ⟨rfl, rfl⟩ | ⟨rfl, rfl⟩ |
        ⟨rfl, rfl⟩ | ⟨rfl, rfl⟩ <;> rfl
  | @unit n digits h =>
      obtain ⟨hlength, hread⟩ := h
      obtain ⟨a, b, c, d, rfl⟩ := List.length_eq_four.mp hlength
      simp only [List.cons_append, List.nil_append, readPieces, hread]

theorem readPieces_text (h : StringText pieces cs) (rest : List Char) :
    readPieces (cs ++ '"' :: rest) = some (pieces, rest) := by
  induction h with
  | nil => rfl
  | cons h hmore ih =>
      rw [List.append_assoc, readPieces_piece h, ih]
      rfl

/-- With a stand-in for halves of pairs every string gives something. -/
theorem exists_assemble_some (c : Char) (pieces : List Piece) :
    ∃ text, assemble (some c) pieces = some text := by
  fun_induction assemble (some c) pieces with
  | case1 => exact ⟨[], rfl⟩
  | case2 _ _ ih | case3 _ _ _ _ ih =>
      obtain ⟨text, htext⟩ := ih
      exact ⟨_, by rw [htext, Option.map_some]⟩
  | case4 _ _ _ _ ih | case5 _ _ _ ih =>
      obtain ⟨text, htext⟩ := ih
      exact ⟨_, by rw [Option.bind_some, htext, Option.map_some]⟩

theorem exists_readString_some (c : Char) (h : StringText pieces cs) :
    ∃ text, ∀ rest, readString (some c) (cs ++ '"' :: rest) = some (text, rest) := by
  obtain ⟨text, htext⟩ := exists_assemble_some c pieces
  refine ⟨String.ofList text, fun rest => ?_⟩
  rw [readString, readPieces_text h]
  simp only [htext, Option.map_some]

theorem UnitText.lt {n : Nat} {digits : List Char} (h : UnitText n digits) : n < 0x10000 := by
  obtain ⟨hlength, hread⟩ := h
  have hne : digits ≠ [] := by
    rintro rfl
    cases hread
  rw [Text.readNat?_eq_readDigits hne] at hread
  simpa [hlength] using Text.readDigits_lt hread

theorem toNat_ofNat {n : Nat} (h : n.isValidChar) : (Char.ofNat n).toNat = n := by
  rw [Char.ofNat, dif_pos h]
  rfl

theorem ofUnit_of_surrogate {n : Nat} (h : 0xD800 ≤ n ∧ n ≤ 0xDFFF) :
    Piece.ofUnit n = .surrogate n := by
  rw [Piece.ofUnit, if_pos]
  simp only [isHighSurrogate, isLowSurrogate, Bool.or_eq_true, Bool.and_eq_true, decide_eq_true_eq]
  omega

theorem ofUnit_of_not_surrogate {n : Nat} (h : ¬ (0xD800 ≤ n ∧ n ≤ 0xDFFF)) :
    Piece.ofUnit n = .char (Char.ofNat n) := by
  rw [Piece.ofUnit, if_neg]
  simp only [isHighSurrogate, isLowSurrogate, Bool.or_eq_true, Bool.and_eq_true, decide_eq_true_eq]
  omega

theorem ofUnit_toNat (c : Char) : Piece.ofUnit c.toNat = .char c := by
  have hvalid : c.toNat.isValidChar := c.valid
  rw [ofUnit_of_not_surrogate (by omega), Char.ofNat_toNat]

theorem toNat_of_ofUnit {n : Nat} {c : Char} (hn : n < 0x10000)
    (h : Piece.ofUnit n = .char c) : c.toNat = n := by
  by_cases hsurrogate : 0xD800 ≤ n ∧ n ≤ 0xDFFF
  · rw [ofUnit_of_surrogate hsurrogate] at h
    cases h
  · rw [ofUnit_of_not_surrogate hsurrogate] at h
    cases h
    exact toNat_ofNat (by omega)

theorem isPair_iff {high low : Nat} : (isHighSurrogate high && isLowSurrogate low) = true ↔
    (0xD800 ≤ high ∧ high ≤ 0xDBFF) ∧ 0xDC00 ≤ low ∧ low ≤ 0xDFFF := by
  simp only [isHighSurrogate, isLowSurrogate, Bool.and_eq_true, decide_eq_true_eq]

theorem pairCode_eq (high low : Nat) :
    pairCode high low = 0x10000 + (high - 0xD800) * 0x400 + (low - 0xDC00) := by
  unfold pairCode
  exact Eq.refl _

theorem toNat_ofNat_pairCode {high low : Nat} (hhigh : 0xD800 ≤ high ∧ high ≤ 0xDBFF)
    (hlow : 0xDC00 ≤ low ∧ low ≤ 0xDFFF) :
    (Char.ofNat (pairCode high low)).toNat =
      0x10000 + (high - 0xD800) * 0x400 + (low - 0xDC00) := by
  rw [pairCode_eq]
  exact toNat_ofNat (by omega)

theorem charText_of_pieceText {c : Char} (h : PieceText (.char c) cs) : CharText c cs := by
  generalize hp : Piece.char c = p at h
  cases h with
  | plain h =>
      cases hp
      exact .plain h
  | short h =>
      cases hp
      exact .short h
  | unit h =>
      obtain rfl := toNat_of_ofUnit h.lt hp.symm
      exact .unit h

theorem pieceText_surrogate {n : Nat} (h : PieceText (.surrogate n) cs) :
    ∃ digits, cs = '\\' :: 'u' :: digits ∧ UnitText n digits := by
  generalize hp : Piece.surrogate n = p at h
  cases h with
  | plain => cases hp
  | short => cases hp
  | @unit n' digits h =>
      rw [Piece.ofUnit] at hp
      split at hp
      · cases hp
        exact ⟨digits, rfl, h⟩
      · cases hp

/-- Pieces that give characters without a stand-in spell them. -/
theorem spells_of_assemble (h : StringText pieces cs) (htext : assemble none pieces = some text) :
    Spells text cs := by
  -- Two units in a row that make a pair are the only surrogates that get past this.
  fun_induction assemble none pieces generalizing cs text with
  | case1 =>
      cases h
      cases htext
      exact .nil
  | case2 c rest ih =>
      obtain ⟨more, hmore, rfl⟩ := Option.map_eq_some_iff.mp htext
      cases h with
      | cons hpiece hrest => exact .cons (charText_of_pieceText hpiece) (ih hrest hmore)
  | case3 high low rest hpair ih =>
      obtain ⟨more, hmore, rfl⟩ := Option.map_eq_some_iff.mp htext
      cases h with
      | cons hhigh hrest =>
          cases hrest with
          | cons hlow hrest =>
              obtain ⟨hfirst, hsecond⟩ := isPair_iff.mp hpair
              obtain ⟨digits, rfl, hunit⟩ := pieceText_surrogate hhigh
              obtain ⟨digits', rfl, hunit'⟩ := pieceText_surrogate hlow
              rw [← List.append_assoc]
              refine .cons (.pair hunit hunit' hfirst hsecond ?_) (ih hrest hmore)
              exact toNat_ofNat_pairCode hfirst hsecond
  | case4 => cases htext
  | case5 => cases htext

/-- What spells characters is text of a string that gives them. -/
theorem exists_of_spells (h : Spells text cs) :
    ∃ pieces, StringText pieces cs ∧ assemble none pieces = some text := by
  induction h with
  | nil => exact ⟨[], .nil, rfl⟩
  | @cons c text cs more h hmore ih =>
      obtain ⟨pieces, hpieces, htext⟩ := ih
      have hchar : assemble none (.char c :: pieces) = some (c :: text) := by
        rw [assemble, htext, Option.map_some]
      cases h with
      | plain h => exact ⟨_, .cons (.plain h) hpieces, hchar⟩
      | short h => exact ⟨_, .cons (.short h) hpieces, hchar⟩
      | unit h =>
          refine ⟨_, .cons (.unit h) hpieces, ?_⟩
          rw [ofUnit_toNat, hchar]
      | @pair high low digits digits' hhigh hlow hfirst hsecond hc =>
          rw [List.append_assoc]
          refine ⟨_, .cons (.unit hhigh) (.cons (.unit hlow) hpieces), ?_⟩
          have hpair := isPair_iff.mpr ⟨hfirst, hsecond⟩
          rw [ofUnit_of_surrogate (by omega), ofUnit_of_surrogate (by omega), assemble,
            if_pos hpair, htext, Option.map_some, pairCode_eq, ← hc, Char.ofNat_toNat]

/-- A string is read without a stand-in exactly if its text spells characters. -/
theorem readString_eq_some_iff {name : String} {after : List Char} (h : StringText pieces cs) :
    readString none (cs ++ '"' :: rest) = some (name, after) ↔
      Spells name.toList cs ∧ after = rest := by
  rw [readString, readPieces_text h]
  simp only [Option.map_eq_some_iff, Prod.mk.injEq]
  constructor
  · rintro ⟨text, htext, rfl, rfl⟩
    rw [String.toList_ofList]
    exact ⟨spells_of_assemble h htext, rfl⟩
  · rintro ⟨hspells, rfl⟩
    obtain ⟨pieces', h', htext⟩ := exists_of_spells hspells
    obtain rfl : pieces = pieces' := by
      have hread := readPieces_text h []
      rw [readPieces_text h' []] at hread
      exact congrArg Prod.fst (Option.some.inj hread).symm
    exact ⟨_, htext, String.ofList_toList, rfl⟩

end Strings

section Numbers

/-- An exponent as it is written: a letter, a sign or none, and digits. -/
inductive ExponentText : Option Int → List Char → Prop
  | none : ExponentText none []
  | some {mark : Char} (hmark : mark = 'e' ∨ mark = 'E') {negative : Bool} {sign ds : List Char}
    (hsign : SignText negative sign) (hne : ds ≠ []) (hds : ∀ c ∈ ds, c.isDigit = true) :
    ExponentText
      (some (if negative then -(Nat.ofDigitChars 10 ds 0 : Int) else Nat.ofDigitChars 10 ds 0))
      (mark :: (sign ++ ds))

/-- A number as it is written. -/
inductive NumberText (l : Literal) : List Char → Prop
  | mk {exponent : List Char} (h : l.Proper) (hexponent : ExponentText l.exponent exponent) :
    NumberText l
      ((if l.negative then ['-'] else []) ++ (l.whole ++ (fractionText l.fraction ++ exponent)))

variable {l : Literal} {e : Option Int} {exponent cs rest : List Char}

theorem isDigit_eq (c : Char) : isDigit c = c.isDigit := by
  simp [isDigit, Char.isDigit, Char.le_def]

theorem readExponent_exponentText (h : ExponentText e exponent) (hrest : EndsNumber rest) :
    readExponent (exponent ++ rest) = some (e, rest) := by
  cases h with
  | none => exact readExponent_text none hrest
  | @some mark hmark negative sign ds hsign hne hds =>
      have hread := Text.readNat?_ten_eq_some_iff.mpr ⟨hne, hds, rfl⟩
      rw [List.cons_append, List.append_assoc]
      refine readExponent_digits hmark hsign hne ?_ hread fun c hc => (hrest c hc).1
      exact fun c hc => (isDigit_eq c).trans (hds c hc)

theorem head?_exponentText (h : ExponentText e exponent) (hrest : EndsNumber rest) :
    ∀ c ∈ (exponent ++ rest).head?, isDigit c = false ∧ c ≠ '.' := by
  intro c hc
  cases h with
  | none => exact ⟨(hrest c hc).1, (hrest c hc).2.1⟩
  | some hmark =>
      obtain rfl := Option.some.inj hc
      rcases hmark with rfl | rfl <;> decide

theorem readNumber_text (h : NumberText l cs) (hrest : EndsNumber rest) :
    readNumber (cs ++ rest) = some (l, rest) := by
  cases h with
  | mk h hexponent =>
      have hhead := head?_exponentText hexponent hrest
      simp only [List.append_assoc]
      rw [readNumber_digits l.negative h.whole_ne_nil h.whole_digits h.no_zero_in_front
          (head?_fractionText_append fun c hc => (hhead c hc).1),
        readBehindWhole_text l.negative l.whole h.fraction_digits
          (readExponent_exponentText hexponent hrest) hhead]

theorem NumberText.begins (h : NumberText l cs) :
    ∃ c more, cs = c :: more ∧ startsNumber c = true := by
  cases h with
  | mk h => exact exists_startsNumber l.negative h.whole_ne_nil h.whole_digits _

theorem NumberText.proper (h : NumberText l cs) : l.Proper := by
  cases h with
  | mk h => exact h

theorem NumberText.eq_whole (h : NumberText l cs) (hwhole : l.isWhole = true)
    (hsign : l.negative = false) : cs = l.whole := by
  rw [Literal.isWhole, Bool.and_eq_true, List.isEmpty_iff, Option.isNone_iff_eq_none] at hwhole
  cases h with
  | mk h hexponent =>
      rw [hwhole.2] at hexponent
      cases hexponent
      simp [hsign, hwhole.1, fractionText]

/-- Nothing but digits is written of a number that has no sign, no fraction and no exponent. -/
theorem NumberText.digits_iff (h : NumberText l cs) :
    (∀ c ∈ cs, c.isDigit = true) ↔ l.isWhole = true ∧ l.negative = false := by
  constructor
  · intro hdigits
    cases h with
    | mk h hexponent =>
        simp only [List.forall_mem_append] at hdigits
        obtain ⟨hsign, -, hfraction, hmark⟩ := hdigits
        have hnegative : l.negative = false := by
          cases hl : l.negative with
          | false => rfl
          | true => exact absurd (hsign '-' (by simp [hl])) (by decide)
        have hnone : l.fraction = [] := by
          cases hl : l.fraction with
          | nil => rfl
          | cons d ds => exact absurd (hfraction '.' (by simp [hl, fractionText])) (by decide)
        have hplain : l.exponent = none := by
          generalize l.exponent = e at hexponent
          cases hexponent with
          | none => rfl
          | some hletter =>
              have hdigit := hmark _ List.mem_cons_self
              rcases hletter with rfl | rfl <;> cases hdigit
        exact ⟨by rw [Literal.isWhole, hnone, hplain]; rfl, hnegative⟩
  · rintro ⟨hwhole, hsign⟩
    rw [h.eq_whole hwhole hsign]
    exact fun c hc => (isDigit_eq c).symm.trans (h.proper.whole_digits c hc)

end Numbers

section Values

/-- White space. -/
def Blank (cs : List Char) : Prop := ∀ c ∈ cs, isSpace c = true

/-- The symbols of the grammar: a value, and the items and the members between brackets and braces,
of which there is at least one. -/
inductive Symbol
  | value
  | items
  | members

def words : List (List Char) := ["null".toList, "true".toList, "false".toList]

/-- The text in front of the value of a member. -/
inductive Opening (name : List Char) : List Char → Prop
  | mk {before gap gap' : List Char} (hbefore : Blank before) (hgap : Blank gap)
    (hgap' : Blank gap') : Opening name (before ++ '"' :: (name ++ '"' :: (gap ++ ':' :: gap')))

inductive Derives : Symbol → List Char → Prop
  | word {cs : List Char} (h : cs ∈ words) : Derives .value cs
  | number {l : Literal} {cs : List Char} (h : NumberText l cs) : Derives .value cs
  | string {pieces : List Piece} {cs : List Char} (h : StringText pieces cs) :
    Derives .value ('"' :: (cs ++ ['"']))
  | emptyArray {gap : List Char} (h : Blank gap) : Derives .value ('[' :: (gap ++ [']']))
  | array {cs : List Char} (h : Derives .items cs) : Derives .value ('[' :: (cs ++ [']']))
  | emptyObject {gap : List Char} (h : Blank gap) : Derives .value ('\x7b' :: (gap ++ ['\x7d']))
  | object {cs : List Char} (h : Derives .members cs) :
    Derives .value ('\x7b' :: (cs ++ ['\x7d']))
  | item {before cs after : List Char} (hbefore : Blank before) (h : Derives .value cs)
    (hafter : Blank after) : Derives .items (before ++ (cs ++ after))
  | items {before cs after more : List Char} (hbefore : Blank before) (h : Derives .value cs)
    (hafter : Blank after) (hmore : Derives .items more) :
    Derives .items (before ++ (cs ++ (after ++ ',' :: more)))
  | member {pieces : List Piece} {name opening cs after : List Char}
    (hname : StringText pieces name) (hopening : Opening name opening) (h : Derives .value cs)
    (hafter : Blank after) : Derives .members (opening ++ (cs ++ after))
  | members {pieces : List Piece} {name opening cs after more : List Char}
    (hname : StringText pieces name) (hopening : Opening name opening) (h : Derives .value cs)
    (hafter : Blank after) (hmore : Derives .members more) :
    Derives .members (opening ++ (cs ++ (after ++ ',' :: more)))

/-- What the reader does with the text of a symbol, if it has fuel for it and a stand-in for halves
of surrogate pairs. -/
def ReadsAll (stand : Char) : Symbol → List Char → Prop
  | .value, cs => ∀ fuel rest, EndsNumber rest → 2 * cs.length ≤ fuel →
    ∃ v, readValue (some stand) fuel (cs ++ rest) = some (v, rest)
  | .items, cs => ∀ fuel rest, 2 * cs.length < fuel →
    ∃ items, readItems (some stand) fuel (cs ++ ']' :: rest) = some (items, rest)
  | .members, cs => ∀ fuel rest, 2 * cs.length < fuel →
    ∃ members, readMembers (some stand) fuel (cs ++ '\x7d' :: rest) = some (members, rest)

variable {stand : Char} {cs more rest blanks : List Char} {symbol : Symbol}

theorem Blank.skipSpace_append (h : Blank blanks) (cs : List Char) :
    skipSpace (blanks ++ cs) = skipSpace cs :=
  Json.skipSpace_append h cs

theorem Blank.skipSpace_cons (h : Blank blanks) {c : Char} (hc : isSpace c = false)
    (cs : List Char) : skipSpace (blanks ++ c :: cs) = c :: cs := by
  rw [h.skipSpace_append, Json.skipSpace_cons hc]

theorem Blank.endsNumber_cons (h : Blank blanks) {c : Char}
    (hc : isDigit c = false ∧ c ≠ '.' ∧ c ≠ 'e' ∧ c ≠ 'E') (cs : List Char) :
    EndsNumber (blanks ++ c :: cs) := by
  intro d hd
  cases blanks with
  | nil =>
      obtain rfl : c = d := Option.some.inj hd
      exact hc
  | cons b blanks => exact endsNumber_blanks h d hd

/-- A value is a string or a number, or else begins like neither. -/
theorem Derives.string_or_number_or_other (h : Derives .value cs) :
    (∃ pieces written, StringText pieces written ∧ cs = '"' :: (written ++ ['"'])) ∨
      (∃ l, NumberText l cs) ∨
        ∃ c more, cs = c :: more ∧ isSpace c = false ∧ c ≠ ']' ∧ c ≠ '"' ∧
          startsNumber c = false := by
  cases h with
  | string h => exact Or.inl ⟨_, _, h, rfl⟩
  | number h => exact Or.inr (Or.inl ⟨_, h⟩)
  | word h =>
      simp only [words, List.mem_cons, List.not_mem_nil, or_false] at h
      refine Or.inr (Or.inr ?_)
      rcases h with rfl | rfl | rfl <;> exact ⟨_, _, rfl, rfl, by decide, by decide, rfl⟩
  | emptyArray | array | emptyObject | object =>
      exact Or.inr (Or.inr ⟨_, _, rfl, rfl, by decide, by decide, rfl⟩)

theorem Derives.begins (h : Derives .value cs) : Begins cs := by
  obtain ⟨pieces, written, -, rfl⟩ | ⟨l, hl⟩ | ⟨c, more, rfl, hc, hne, -, -⟩ :=
    h.string_or_number_or_other
  · exact ⟨_, _, rfl, rfl, by decide⟩
  · obtain ⟨c, more, rfl, hc⟩ := hl.begins
    exact ⟨c, more, rfl, isSpace_of_startsNumber hc, ne_of_startsNumber hc rfl⟩
  · exact ⟨c, more, rfl, hc, hne⟩

theorem Derives.string_or_not (h : Derives .value cs) :
    (∃ pieces written, StringText pieces written ∧ cs = '"' :: (written ++ ['"'])) ∨
      ∃ c more, cs = c :: more ∧ isSpace c = false ∧ c ≠ '"' := by
  obtain hstring | ⟨l, hl⟩ | ⟨c, more, rfl, hc, -, hquote, -⟩ := h.string_or_number_or_other
  · exact Or.inl hstring
  · obtain ⟨c, more, rfl, hc⟩ := hl.begins
    exact Or.inr ⟨c, more, rfl, isSpace_of_startsNumber hc, ne_of_startsNumber hc rfl⟩
  · exact Or.inr ⟨c, more, rfl, hc, hquote⟩

theorem Derives.number_or_not (h : Derives .value cs) :
    (∃ l, NumberText l cs) ∨
      ∃ c more, cs = c :: more ∧ isSpace c = false ∧ startsNumber c = false := by
  obtain ⟨pieces, written, -, rfl⟩ | hnumber | ⟨c, more, rfl, hc, -, -, hnumber⟩ :=
    h.string_or_number_or_other
  · exact Or.inr ⟨_, _, rfl, rfl, rfl⟩
  · exact Or.inl hnumber
  · exact Or.inr ⟨c, more, rfl, hc, hnumber⟩

theorem readsAll_word (h : cs ∈ words) : ReadsAll stand .value cs := by
  intro fuel rest _ hfuel
  simp only [words, List.mem_cons, List.not_mem_nil, or_false] at h
  rcases h with rfl | rfl | rfl
  all_goals
    obtain ⟨fuel, rfl⟩ := Nat.exists_eq_add_one_of_ne_zero (Nat.ne_zero_of_lt hfuel)
    exact ⟨_, rfl⟩

/-- A value takes one unit of fuel, and has two for its first character. -/
theorem readsAll_value {c : Char}
    (h : ∀ fuel rest, EndsNumber rest → 2 * cs.length < fuel →
      ∃ v, readValue (some stand) (fuel + 1) (c :: (cs ++ rest)) = some (v, rest)) :
    ReadsAll stand .value (c :: cs) := by
  intro fuel rest hrest hfuel
  rw [List.length_cons] at hfuel
  obtain ⟨fuel, rfl⟩ := Nat.exists_eq_add_one_of_ne_zero (n := fuel) (by omega)
  exact h fuel rest hrest (by omega)

theorem readsAll_number {l : Literal} (h : NumberText l cs) : ReadsAll stand .value cs := by
  have hread (rest : List Char) (hrest : EndsNumber rest) :
      readNumber (cs ++ rest) = some (l, rest) := readNumber_text h hrest
  obtain ⟨c, more, rfl, hc⟩ := h.begins
  refine readsAll_value fun fuel rest hrest _ => ⟨.number l, ?_⟩
  rw [readValue_number hc, ← List.cons_append, hread rest hrest, Option.map_some]

theorem readsAll_string {pieces : List Piece} (h : StringText pieces cs) :
    ReadsAll stand .value ('"' :: (cs ++ ['"'])) := by
  obtain ⟨text, hread⟩ := exists_readString_some stand h
  refine readsAll_value fun fuel rest _ _ => ⟨.string text, ?_⟩
  rw [List.append_assoc]
  exact readValue_string (skipSpace_cons rfl _) (hread rest)

theorem readsAll_emptyArray (h : Blank blanks) :
    ReadsAll stand .value ('[' :: (blanks ++ [']'])) := by
  refine readsAll_value fun fuel rest _ _ => ⟨.array [], ?_⟩
  rw [List.append_assoc]
  exact readValue_array_nil (skipSpace_cons rfl _) (h.skipSpace_cons rfl _)

theorem readsAll_emptyObject (h : Blank blanks) :
    ReadsAll stand .value ('\x7b' :: (blanks ++ ['\x7d'])) := by
  refine readsAll_value fun fuel rest _ _ => ⟨.object [], ?_⟩
  rw [List.append_assoc]
  exact readValue_object_nil (skipSpace_cons rfl _) (h.skipSpace_cons rfl _)

/-- Items begin with the first of them, behind white space. -/
theorem Derives.items_begin (h : Derives .items cs) (rest : List Char) :
    ∀ after, skipSpace (cs ++ rest) ≠ ']' :: after := by
  have hskip {before : List Char} (hbefore : Blank before) {item : List Char}
      (hitem : Derives .value item) (behind : List Char) :
      ∀ after, skipSpace (before ++ (item ++ behind)) ≠ ']' :: after := by
    intro after heq
    obtain ⟨c, more, rfl, hc, hne⟩ := hitem.begins
    rw [List.cons_append, hbefore.skipSpace_cons hc] at heq
    exact hne (List.cons.inj heq).1
  cases h with
  | item hbefore h _ =>
      simp only [List.append_assoc]
      exact hskip hbefore h _
  | items hbefore h _ _ =>
      simp only [List.append_assoc]
      exact hskip hbefore h _

theorem readsAll_array (hbegin : Derives .items cs) (h : ReadsAll stand .items cs) :
    ReadsAll stand .value ('[' :: (cs ++ [']'])) := by
  refine readsAll_value fun fuel rest _ hfuel => ?_
  rw [List.length_append] at hfuel
  obtain ⟨items, hitems⟩ := h fuel rest (by omega)
  refine ⟨.array items, ?_⟩
  rw [List.append_assoc]
  exact readValue_array (skipSpace_cons rfl _) (hbegin.items_begin _) hitems

theorem readsAll_item {before after : List Char} (hbefore : Blank before)
    (h : ReadsAll stand .value cs) (hafter : Blank after) :
    ReadsAll stand .items (before ++ (cs ++ after)) := by
  intro fuel rest hfuel
  simp only [List.length_append] at hfuel
  obtain ⟨fuel, rfl⟩ := Nat.exists_eq_add_one_of_ne_zero (n := fuel) (by omega)
  obtain ⟨v, hv⟩ := h fuel (after ++ ']' :: rest) (hafter.endsNumber_cons (by decide) rest)
    (by omega)
  refine ⟨[v], ?_⟩
  simp only [List.append_assoc]
  rw [readItems_of_value hbefore hv, hafter.skipSpace_cons rfl, behindItem]

theorem readsAll_items {before after : List Char} (hbefore : Blank before)
    (h : ReadsAll stand .value cs) (hafter : Blank after) (hmore : ReadsAll stand .items more) :
    ReadsAll stand .items (before ++ (cs ++ (after ++ ',' :: more))) := by
  intro fuel rest hfuel
  simp only [List.length_append, List.length_cons] at hfuel
  obtain ⟨fuel, rfl⟩ := Nat.exists_eq_add_one_of_ne_zero (n := fuel) (by omega)
  obtain ⟨v, hv⟩ := h fuel (after ++ ',' :: (more ++ ']' :: rest))
    (hafter.endsNumber_cons (by decide) _) (by omega)
  obtain ⟨items, hitems⟩ := hmore fuel rest (by omega)
  refine ⟨v :: items, ?_⟩
  simp only [List.append_assoc, List.cons_append]
  rw [readItems_of_value hbefore hv, hafter.skipSpace_cons rfl, behindItem, hitems,
    Option.map_some]

theorem Opening.skipSpace_append {name opening : List Char} (h : Opening name opening) :
    ∃ more, Opening name ('"' :: more) ∧
      ∀ rest, skipSpace (opening ++ rest) = '"' :: (more ++ rest) := by
  cases h with
  | mk hbefore hgap hgap' =>
      refine ⟨_, .mk (List.forall_mem_nil _) hgap hgap', fun rest => ?_⟩
      rw [List.append_assoc, List.cons_append, hbefore.skipSpace_cons rfl]

theorem Derives.members_begin (h : Derives .members cs) (rest : List Char) :
    ∀ after, skipSpace (cs ++ rest) ≠ '\x7d' :: after := by
  intro after heq
  cases h with
  | member _ hopening _ _ | members _ hopening _ _ _ =>
      obtain ⟨more, -, hskip⟩ := hopening.skipSpace_append
      rw [List.append_assoc, hskip] at heq
      exact absurd (List.cons.inj heq).1 (by decide)

theorem readsAll_object (hbegin : Derives .members cs) (h : ReadsAll stand .members cs) :
    ReadsAll stand .value ('\x7b' :: (cs ++ ['\x7d'])) := by
  refine readsAll_value fun fuel rest _ hfuel => ?_
  rw [List.length_append] at hfuel
  obtain ⟨members, hmembers⟩ := h fuel rest (by omega)
  refine ⟨.object members, ?_⟩
  rw [List.append_assoc]
  exact readValue_object (skipSpace_cons rfl _) (hbegin.members_begin _) hmembers

/-- Behind the opening of a member and its value the reader goes on as behind any member. -/
theorem readMembers_opening {pieces : List Piece} {name opening : List Char}
    (hname : StringText pieces name) (hopening : Opening name opening) {fuel : Nat} {v : Value}
    (hv : readValue (some stand) fuel cs = some (v, rest)) :
    ∃ text, readMembers (some stand) (fuel + 1) (opening ++ cs) =
      behindMember (some stand) fuel text v (skipSpace rest) := by
  obtain ⟨text, hread⟩ := exists_readString_some stand hname
  cases hopening with
  | mk hbefore hgap hgap' =>
      refine ⟨text, ?_⟩
      simp only [List.append_assoc, List.cons_append]
      exact readMembers_of_value hbefore hgap hgap' hread hv

section Members

variable {pieces : List Piece} {name opening after : List Char}

theorem readsAll_member (hname : StringText pieces name) (hopening : Opening name opening)
    (h : ReadsAll stand .value cs) (hafter : Blank after) :
    ReadsAll stand .members (opening ++ (cs ++ after)) := by
  intro fuel rest hfuel
  simp only [List.length_append] at hfuel
  obtain ⟨fuel, rfl⟩ := Nat.exists_eq_add_one_of_ne_zero (n := fuel) (by omega)
  obtain ⟨v, hv⟩ := h fuel (after ++ '\x7d' :: rest) (hafter.endsNumber_cons (by decide) rest)
    (by omega)
  obtain ⟨text, hread⟩ := readMembers_opening hname hopening hv
  refine ⟨[(text, v)], ?_⟩
  simp only [List.append_assoc]
  rw [hread, hafter.skipSpace_cons rfl, behindMember]

theorem readsAll_members (hname : StringText pieces name) (hopening : Opening name opening)
    (h : ReadsAll stand .value cs) (hafter : Blank after) (hmore : ReadsAll stand .members more) :
    ReadsAll stand .members (opening ++ (cs ++ (after ++ ',' :: more))) := by
  intro fuel rest hfuel
  simp only [List.length_append, List.length_cons] at hfuel
  obtain ⟨fuel, rfl⟩ := Nat.exists_eq_add_one_of_ne_zero (n := fuel) (by omega)
  obtain ⟨v, hv⟩ := h fuel (after ++ ',' :: (more ++ '\x7d' :: rest))
    (hafter.endsNumber_cons (by decide) _) (by omega)
  obtain ⟨text, hread⟩ := readMembers_opening hname hopening hv
  obtain ⟨members, hmembers⟩ := hmore fuel rest (by omega)
  refine ⟨(text, v) :: members, ?_⟩
  simp only [List.append_assoc, List.cons_append]
  rw [hread, hafter.skipSpace_cons rfl, behindMember, hmembers, Option.map_some]

end Members

/-- All that the grammar derives is read, and nothing behind it. -/
theorem readsAll (stand : Char) (h : Derives symbol cs) : ReadsAll stand symbol cs := by
  induction h with
  | word h => exact readsAll_word h
  | number h => exact readsAll_number h
  | string h => exact readsAll_string h
  | emptyArray h => exact readsAll_emptyArray h
  | array h ih => exact readsAll_array h ih
  | emptyObject h => exact readsAll_emptyObject h
  | object h ih => exact readsAll_object h ih
  | item hbefore _ hafter ih => exact readsAll_item hbefore ih hafter
  | items hbefore _ hafter _ ih ihmore => exact readsAll_items hbefore ih hafter ihmore
  | member hname hopening _ hafter ih => exact readsAll_member hname hopening ih hafter
  | members hname hopening _ hafter _ ih ihmore =>
      exact readsAll_members hname hopening ih hafter ihmore

end Values

end Readiness.Json
