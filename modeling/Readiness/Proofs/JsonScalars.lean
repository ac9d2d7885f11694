import Readiness.Json.Printer
import Readiness.Json.Reader
import Readiness.Proofs.Digits
import Readiness.Proofs.Rows

/-!
Strings and numbers as they are printed and read back. Every string is read back from its text,
whatever characters it has; a number is, if it is written as JSON writes numbers and something
else follows.
-/

namespace Readiness.Json

section Strings

variable {stand : Option Char}

theorem hexUnit_reads {n : Nat} (h : n < 0x10000) :
    ∃ a b c d, hexUnit n = [a, b, c, d] ∧ Text.readNat? 16 [a, b, c, d] = some n := by
  have hfour : (Nat.toDigits 16 n).length ≤ 4 :=
    (Nat.length_toDigits_le_iff (by decide) (by decide)).mpr h
  have hlength : (hexUnit n).length = 4 := by
    rw [hexUnit, List.length_append, List.length_replicate]
    omega
  have hread : Text.readDigits 16 0 (hexUnit n) = some n := by
    rw [hexUnit, Text.readDigits_zeros (by decide) (by decide),
      Text.readDigits_toDigits (by decide) (by decide)]
  match hexUnit n, hlength, hread with
  | [a, b, c, d], _, h => exact ⟨a, b, c, d, rfl, h⟩

theorem readPieces_escapedChar (c : Char) (cs : List Char) :
    readPieces (escapedChar c ++ cs) =
      (readPieces cs).map fun (pieces, rest) => (.char c :: pieces, rest) := by
  fun_cases escapedChar c with
  | case1 | case2 | case3 | case4 | case5 | case6 | case7 =>
      subst_vars
      rfl
  | case8 =>
      rename_i hcontrol
      obtain ⟨a, b, c', d, hunit, hread⟩ := hexUnit_reads (n := c.toNat) (by omega)
      -- Controls lie below all surrogates.
      have hpiece : Piece.ofUnit c.toNat = .char c := by
        have hhigh : isHighSurrogate c.toNat = false := by simp [isHighSurrogate]; omega
        have hlow : isLowSurrogate c.toNat = false := by simp [isLowSurrogate]; omega
        rw [Piece.ofUnit, hhigh, hlow, Char.ofNat_toNat]
        rfl
      rw [hunit]
      simp only [List.cons_append, List.nil_append, readPieces, hread, hpiece]
  | case9 =>
      rename_i hquote hback _ _ _ _ _ hcontrol
      rw [List.singleton_append, readPieces.eq_def]
      split <;> simp_all

theorem readPieces_chars (cs rest : List Char) :
    readPieces (cs.flatMap escapedChar ++ '"' :: rest) = some (cs.map .char, rest) := by
  induction cs with
  | nil => rfl
  | cons c cs ih =>
      rw [List.flatMap_cons, List.append_assoc, readPieces_escapedChar, ih]
      rfl

theorem assemble_chars (cs : List Char) : assemble stand (cs.map .char) = some cs := by
  induction cs with
  | nil => rfl
  | cons c cs ih =>
      rw [List.map_cons, assemble, ih]
      rfl

theorem readString_chars (text : String) (rest : List Char) :
    readString stand (text.toList.flatMap escapedChar ++ '"' :: rest) = some (text, rest) := by
  rw [readString, readPieces_chars]
  simp only [assemble_chars, Option.map_some, String.ofList_toList]

theorem assemble_of_none {pieces : List Piece} {text : List Char}
    (h : assemble none pieces = some text) : assemble stand pieces = some text := by
  fun_induction assemble none pieces generalizing text with
  | case1 => exact h
  | case2 c rest ih =>
      obtain ⟨more, hmore, rfl⟩ := Option.map_eq_some_iff.mp h
      rw [assemble, ih hmore]
      rfl
  | case3 high low rest hpair ih =>
      obtain ⟨more, hmore, rfl⟩ := Option.map_eq_some_iff.mp h
      rw [assemble, if_pos hpair, ih hmore]
      rfl
  | case4 => cases h
  | case5 => cases h

theorem readString_of_none {cs : List Char} {r : String × List Char}
    (h : readString none cs = some r) : readString stand cs = some r := by
  rw [readString] at h ⊢
  split at h
  · obtain ⟨text, htext, rfl⟩ := Option.map_eq_some_iff.mp h
    simp only [assemble_of_none htext, Option.map_some]
  · cases h

end Strings

section Numbers

/-- A number as JSON writes it: digits, no zero in front of others. -/
structure Literal.Proper (l : Literal) : Prop where
  whole_ne_nil : l.whole ≠ []
  whole_digits : ∀ c ∈ l.whole, isDigit c = true
  no_zero_in_front : l.whole.head? = some '0' → l.whole = ['0']
  fraction_digits : ∀ c ∈ l.fraction, isDigit c = true

/-- The text goes on with something that is no part of a number. -/
def EndsNumber (rest : List Char) : Prop :=
  ∀ c ∈ rest.head?, isDigit c = false ∧ c ≠ '.' ∧ c ≠ 'e' ∧ c ≠ 'E'

theorem ne_of_isDigit {c x : Char} (hc : isDigit c = true) (hx : isDigit x = false) : c ≠ x := by
  rintro rfl
  exact Bool.false_ne_true (hx.symm.trans hc)

theorem isDigit_of_mem_toDigits {n : Nat} {c : Char} (h : c ∈ Nat.toDigits 10 n) :
    isDigit c = true := by
  have hdigit := Nat.isDigit_of_mem_toDigits (by decide) (by decide) h
  simpa [Char.isDigit, isDigit, Char.le_def] using hdigit

theorem Literal.ofNat_proper (n : Nat) : (Literal.ofNat n).Proper where
  whole_ne_nil := Nat.toDigits_ne_nil
  whole_digits _ h := isDigit_of_mem_toDigits h
  no_zero_in_front h := by
    obtain rfl := Text.eq_zero_of_head?_toDigits h
    rfl
  fraction_digits _ h := by cases h

theorem takeWhile_digits {ds rest : List Char} (hds : ∀ c ∈ ds, isDigit c = true)
    (hrest : ∀ c ∈ rest.head?, isDigit c = false) :
    (ds ++ rest).takeWhile isDigit = ds ∧ (ds ++ rest).dropWhile isDigit = rest :=
  Text.takeWhile_run hds rest (by simpa [Option.all_eq_true] using hrest)

def exponentText : Option Int → List Char
  | none => []
  | some e => 'e' :: (toString e).toList

def fractionText (fraction : List Char) : List Char :=
  if fraction.isEmpty then [] else '.' :: fraction

theorem Literal.chars_eq (l : Literal) :
    l.chars = (if l.negative then ['-'] else []) ++
      (l.whole ++ (fractionText l.fraction ++ exponentText l.exponent)) := by
  simp only [chars, fractionText, List.append_assoc]
  cases l.exponent <;> rfl

theorem toList_toString_int (e : Int) :
    (toString e).toList = (if e < 0 then ['-'] else []) ++ Nat.toDigits 10 e.natAbs := by
  have hrepr : toString e = e.repr := rfl
  rw [hrepr, Int.repr_eq_if]
  by_cases h : e < 0
  · have hsign : "-".toList = ['-'] := rfl
    rw [if_neg (by omega), if_pos h, String.toList_append, Nat.toList_repr, hsign]
    congr 2
    omega
  · rw [if_pos (by omega), if_neg h, Nat.toList_repr, List.nil_append]
    congr 1
    omega

theorem head?_exponentText_append (exponent : Option Int) {rest : List Char}
    (hrest : EndsNumber rest) :
    ∀ c ∈ (exponentText exponent ++ rest).head?, isDigit c = false ∧ c ≠ '.' := by
  intro c hc
  cases exponent with
  | none => exact ⟨(hrest c hc).1, (hrest c hc).2.1⟩
  | some e =>
      obtain rfl : 'e' = c := Option.some.inj hc
      decide

/-- The sign in front of an exponent. -/
inductive SignText : Bool → List Char → Prop
  | none : SignText false []
  | plus : SignText false ['+']
  | minus : SignText true ['-']

theorem signText_of_lt_zero (e : Int) :
    SignText (decide (e < 0)) (if e < 0 then ['-'] else []) := by
  by_cases h : e < 0
  · rw [if_pos h, decide_eq_true h]
    exact .minus
  · rw [if_neg h, decide_eq_false h]
    exact .none

theorem readExponent_digits {mark : Char} (hmark : mark = 'e' ∨ mark = 'E') {negative : Bool}
    {sign ds rest : List Char} {n : Nat} (hsign : SignText negative sign) (hne : ds ≠ [])
    (hds : ∀ c ∈ ds, isDigit c = true) (hread : Text.readNat? 10 ds = some n)
    (hrest : ∀ c ∈ rest.head?, isDigit c = false) :
    readExponent (mark :: (sign ++ (ds ++ rest))) =
      some (some (if negative then -(n : Int) else n), rest) := by
  obtain ⟨htake, hdrop⟩ := takeWhile_digits hds hrest
  cases hsign with
  | minus => simp [readExponent, hmark, htake, hdrop, hread]
  | plus => simp [readExponent, hmark, htake, hdrop, hread]
  | none =>
      obtain ⟨first, more, rfl⟩ := List.exists_cons_of_ne_nil hne
      have hfirst : isDigit first = true := hds first List.mem_cons_self
      have hminus : first ≠ '-' := ne_of_isDigit hfirst rfl
      have hplus : first ≠ '+' := ne_of_isDigit hfirst rfl
      rw [List.cons_append] at htake hdrop
      simp [readExponent, hmark, hminus, hplus, htake, hdrop, hread]

theorem readExponent_text (exponent : Option Int) {rest : List Char} (hrest : EndsNumber rest) :
    readExponent (exponentText exponent ++ rest) = some (exponent, rest) := by
  cases exponent with
  | none =>
      cases rest with
      | nil => rfl
      | cons c rest =>
          obtain ⟨-, -, hlower, hupper⟩ := hrest c rfl
          simp [exponentText, readExponent, hlower, hupper]
  | some e =>
      have hread : Text.readNat? 10 (Nat.toDigits 10 e.natAbs) = some e.natAbs :=
        Text.readNat?_toDigits (by decide) (by decide) _
      have hvalue : (if e < 0 then -(e.natAbs : Int) else e.natAbs) = e := by
        split <;> omega
      have hexponent := readExponent_digits (Or.inl rfl) (signText_of_lt_zero e)
        Nat.toDigits_ne_nil (fun c => isDigit_of_mem_toDigits) hread (fun c hc => (hrest c hc).1)
      simp only [decide_eq_true_eq, hvalue] at hexponent
      rw [exponentText, toList_toString_int, List.cons_append, List.append_assoc, hexponent]

/-- The literal with these whole digits, from what stands behind them. -/
def readBehindWhole (negative : Bool) (whole : List Char) : List Char → Read Literal
  | '.' :: rest =>
    if (rest.takeWhile isDigit).isEmpty then none
    else (readExponent (rest.dropWhile isDigit)).map
      fun (exponent, after) => (⟨negative, whole, rest.takeWhile isDigit, exponent⟩, after)
  | rest => (readExponent rest).map
      fun (exponent, after) => (⟨negative, whole, [], exponent⟩, after)

theorem readNumber_digits (negative : Bool) {whole behind : List Char} (hne : whole ≠ [])
    (hwhole : ∀ c ∈ whole, isDigit c = true) (hzero : whole.head? = some '0' → whole = ['0'])
    (hbehind : ∀ c ∈ behind.head?, isDigit c = false) :
    readNumber ((if negative then ['-'] else []) ++ (whole ++ behind)) =
      readBehindWhole negative whole behind := by
  obtain ⟨htake, hdrop⟩ := takeWhile_digits hwhole hbehind
  obtain ⟨first, more, rfl⟩ := List.exists_cons_of_ne_nil hne
  have hminus : first ≠ '-' := ne_of_isDigit (hwhole first List.mem_cons_self) rfl
  have hallowed : (first = '0' && !more.isEmpty) = false := by
    by_cases hfirst : first = '0'
    · obtain ⟨-, rfl⟩ := List.cons.inj (hzero (congrArg some hfirst))
      simp
    · simp [hfirst]
  cases negative with
  | true =>
      simp only [readNumber, if_true, List.singleton_append, htake, hdrop, hallowed]
      exact (readBehindWhole.eq_def _ _ behind).symm
  | false =>
      rw [List.cons_append] at htake hdrop ⊢
      simp only [readNumber, Bool.false_eq_true, if_false, List.nil_append, htake, hdrop, hallowed,
        hminus, imp_self, List.cons.injEq, false_and, implies_true]
      exact (readBehindWhole.eq_def _ _ behind).symm

theorem readBehindWhole_text (negative : Bool) (whole : List Char) {fraction : List Char}
    (hfraction : ∀ c ∈ fraction, isDigit c = true) {exponent : Option Int}
    {behind rest : List Char} (hread : readExponent behind = some (exponent, rest))
    (hhead : ∀ c ∈ behind.head?, isDigit c = false ∧ c ≠ '.') :
    readBehindWhole negative whole (fractionText fraction ++ behind) =
      some (⟨negative, whole, fraction, exponent⟩, rest) := by
  cases fraction with
  | nil =>
      change readBehindWhole negative whole behind = _
      rw [readBehindWhole.eq_def]
      split
      · exact absurd rfl (hhead '.' rfl).2
      · rw [hread]
        rfl
  | cons d ds =>
      obtain ⟨htake, hdrop⟩ := takeWhile_digits hfraction fun c hc => (hhead c hc).1
      change readBehindWhole negative whole ('.' :: (d :: ds ++ behind)) = _
      rw [readBehindWhole, htake, hdrop, hread]
      rfl

theorem head?_fractionText_append {fraction rest : List Char}
    (hrest : ∀ c ∈ rest.head?, isDigit c = false) :
    ∀ c ∈ (fractionText fraction ++ rest).head?, isDigit c = false := by
  cases fraction with
  | nil => exact hrest
  | cons d ds =>
      intro c hc
      obtain rfl : '.' = c := Option.some.inj hc
      rfl

theorem readNumber_chars {l : Literal} (h : l.Proper) {rest : List Char}
    (hrest : EndsNumber rest) : readNumber (l.chars ++ rest) = some (l, rest) := by
  have hbehind : ∀ c ∈ (fractionText l.fraction ++ (exponentText l.exponent ++ rest)).head?,
      isDigit c = false :=
    head?_fractionText_append fun c hc => (head?_exponentText_append l.exponent hrest c hc).1
  rw [Literal.chars_eq]
  simp only [List.append_assoc]
  rw [readNumber_digits l.negative h.whole_ne_nil h.whole_digits h.no_zero_in_front hbehind,
    readBehindWhole_text l.negative l.whole h.fraction_digits (readExponent_text l.exponent hrest)
      (head?_exponentText_append l.exponent hrest)]

end Numbers

end Readiness.Json
