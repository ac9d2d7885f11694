import Mathlib.Data.List.DropRight
import Readiness.Host.OsVersion
import Readiness.Proofs.Numerals

/-!
The version that a text is read for. Its numbers stand around the first dot between two digits; a
text without such a dot has none. The scan keeps the digits that it has just passed, which are the
longest run of digits at the end of what lies behind it.
-/

namespace Readiness.OsVersion

open Text (isDecimalDigit)

section Numbers

variable {digits : List Char}

/-- The digits are those from 0 to 9, and their number is one of 32 bits. -/
def FitsWord (digits : List Char) : Prop :=
  (∀ c ∈ digits, c.isDigit = true) ∧ Nat.ofDigitChars 10 digits 0 < 2 ^ 32

instance : DecidablePred FitsWord := fun digits =>
  decidable_of_iff (digits.all Char.isDigit = true ∧ Nat.ofDigitChars 10 digits 0 < 2 ^ 32)
    (and_congr_left' List.all_eq_true)

/-- The number that digits stand for; zero if they fit no word, or if there are none. -/
def numeral (digits : List Char) : UInt32 :=
  if FitsWord digits then UInt32.ofNat (Nat.ofDigitChars 10 digits 0) else 0

theorem number?_run (hne : digits ≠ []) (hdigits : ∀ c ∈ digits, isDecimalDigit c = true) :
    number? digits = if FitsWord digits then some (numeral digits) else none := by
  have hplus : digits.head? ≠ some '+' := fun h =>
    absurd (hdigits _ (List.mem_of_head? h)) (by decide)
  have hfits : digits.all Char.isDigit = true ∧ Nat.ofDigitChars 10 digits 0 < UInt32.size ↔
      FitsWord digits := and_congr_left' List.all_eq_true
  rw [number?, Text.readBounded?_ten hne hplus, numeral]
  simp only [hfits]
  split <;> rfl

theorem getD_number? (hdigits : ∀ c ∈ digits, isDecimalDigit c = true) :
    (number? digits).getD 0 = numeral digits := by
  by_cases hne : digits = []
  · rw [hne]
    rfl
  · rw [number?_run hne hdigits, numeral]
    split <;> rfl

end Numbers

section Dots

variable {cs front front' back back' before : List Char} {n : Nat}

/-- A dot between two digits, with all that stands before it and behind it. -/
structure DotAt (cs front back : List Char) : Prop where
  text : cs = front ++ '.' :: back
  digit_before : front.getLast?.any isDecimalDigit = true
  digit_behind : back.head?.any isDecimalDigit = true

/-- The first dot between two digits. -/
structure FirstDotAt (cs front back : List Char) : Prop extends DotAt cs front back where
  first : ∀ front' back', DotAt cs front' back' → front.length ≤ front'.length

theorem DotAt.eq_of_length (h : DotAt cs front back) (h' : DotAt cs front' back')
    (hlength : front.length = front'.length) : front = front' ∧ back = back' := by
  obtain ⟨hfront, hback⟩ := List.append_inj (h.text.symm.trans h'.text) hlength
  exact ⟨hfront, (List.cons.inj hback).2⟩

theorem FirstDotAt.unique (h : FirstDotAt cs front back) (h' : FirstDotAt cs front' back') :
    front = front' ∧ back = back' :=
  h.toDotAt.eq_of_length h'.toDotAt
    (Nat.le_antisymm (h.first _ _ h'.toDotAt) (h'.first _ _ h.toDotAt))

/-- What a scan from a place of the text on comes to: nothing if no dot there stands between two
digits, else the digits that the first one follows and all that follows it. -/
def Scanned (cs : List Char) (n : Nat) : Option (List Char × List Char) → Prop
  | none => ∀ front back, DotAt cs front back → front.length < n
  | some (major, back) => ∃ front, DotAt cs front back ∧
      (∀ front' back', DotAt cs front' back' → front'.length < n ∨ front.length ≤ front'.length) ∧
      major = front.rtakeWhile isDecimalDigit

/-- A scan may begin one place earlier, if that is not the place of the dot. -/
theorem Scanned.earlier {result : Option (List Char × List Char)} (h : Scanned cs (n + 1) result)
    (hplace : ∀ front back, DotAt cs front back → front.length ≠ n) : Scanned cs n result := by
  cases result with
  | none =>
      intro front back hdot
      have hlt := h front back hdot
      have hne := hplace front back hdot
      omega
  | some found =>
      obtain ⟨front, hdot, hfirst, hmajor⟩ := h
      refine ⟨front, hdot, fun front' back' hdot' => ?_, hmajor⟩
      have hle := hfirst front' back' hdot'
      have hne := hplace front' back' hdot'
      omega

theorem any_getLast? (before : List Char) :
    (!(before.reverse.takeWhile isDecimalDigit).isEmpty) = before.getLast?.any isDecimalDigit := by
  rw [List.getLast?_eq_head?_reverse]
  cases before.reverse with
  | nil => rfl
  | cons c rest => cases h : isDecimalDigit c <;> simp [h]

theorem takeWhile_reverse_concat (before : List Char) (c : Char) :
    (before ++ [c]).reverse.takeWhile isDecimalDigit =
      if isDecimalDigit c then c :: before.reverse.takeWhile isDecimalDigit else [] := by
  rw [List.reverse_append, List.reverse_singleton, List.singleton_append, List.takeWhile_cons]

theorem firstDotted_scans (before cs : List Char) :
    Scanned (before ++ cs) before.length
      (firstDotted (before.reverse.takeWhile isDecimalDigit) cs) := by
  -- On what is still to be scanned; what lies before it grows by each character that is passed.
  induction cs generalizing before with
  | nil =>
      intro front back hdot
      have hlength := congrArg List.length hdot.text
      simp only [List.append_nil, List.length_append, List.length_cons] at hlength
      omega
  | cons c rest ih =>
      have hnext := ih (before ++ [c])
      rw [List.append_assoc, List.singleton_append, List.length_append, List.length_singleton,
        takeWhile_reverse_concat] at hnext
      have hplace (front back : List Char) (hdot : DotAt (before ++ c :: rest) front back)
          (hlength : front.length = before.length) : before = front ∧ c = '.' ∧ rest = back := by
        obtain ⟨hfront, hback⟩ := List.append_inj hdot.text hlength.symm
        exact ⟨hfront, List.cons.inj hback⟩
      rw [firstDotted]
      split
      · rename_i hc
        subst hc
        have hdot : isDecimalDigit '.' = false := by decide
        rw [hdot, if_neg Bool.false_ne_true] at hnext
        rw [any_getLast?]
        split
        · rename_i hdigits
          obtain ⟨hbefore, hbehind⟩ := Bool.and_eq_true_iff.mp hdigits
          exact ⟨before, ⟨rfl, hbefore, hbehind⟩,
            fun _ _ _ => (Nat.lt_or_ge _ _).imp_right id, rfl⟩
        · rename_i hdigits
          refine hnext.earlier fun front back hdot hlength => hdigits ?_
          obtain ⟨rfl, -, rfl⟩ := hplace front back hdot hlength
          rw [hdot.digit_before, hdot.digit_behind]
          rfl
      · rename_i hc
        exact hnext.earlier fun front back hdot hlength => hc (hplace front back hdot hlength).2.1

theorem firstDotted_eq_none_iff :
    firstDotted [] cs = none ↔ ∀ front back, ¬ DotAt cs front back := by
  have hscan : Scanned cs 0 (firstDotted [] cs) := firstDotted_scans [] cs
  constructor
  · intro h front back hdot
    rw [h] at hscan
    exact Nat.not_lt_zero _ (hscan front back hdot)
  · intro h
    cases hfound : firstDotted [] cs with
    | none => rfl
    | some found =>
        rw [hfound] at hscan
        obtain ⟨front, hdot, -⟩ := hscan
        exact absurd hdot (h front _)

theorem firstDotted_eq_some_iff {major : List Char} :
    firstDotted [] cs = some (major, back) ↔
      ∃ front, FirstDotAt cs front back ∧ major = front.rtakeWhile isDecimalDigit := by
  have hscan : Scanned cs 0 (firstDotted [] cs) := firstDotted_scans [] cs
  have hfirst {major' back' : List Char} (h : firstDotted [] cs = some (major', back')) :
      ∃ front, FirstDotAt cs front back' ∧ major' = front.rtakeWhile isDecimalDigit := by
    rw [h] at hscan
    obtain ⟨front, hdot, hleast, hmajor⟩ := hscan
    exact ⟨front, ⟨hdot, fun f b hfb => (hleast f b hfb).resolve_left (Nat.not_lt_zero _)⟩, hmajor⟩
  constructor
  · exact hfirst
  · rintro ⟨front, hdot, rfl⟩
    cases hfound : firstDotted [] cs with
    | none => exact absurd hdot.toDotAt (firstDotted_eq_none_iff.mp hfound front back)
    | some found =>
        obtain ⟨front', hdot', hmajor⟩ := hfirst hfound
        obtain ⟨rfl, rfl⟩ := hdot.unique hdot'
        rw [← hmajor]

end Dots

section Reading

variable {text : String}

/-- The version in a text with these parts before a dot and behind it. A number ends where the
digits end, and the last one is there if a second dot follows at once. -/
def readAt (text : String) (front back : List Char) : OsVersion where
  description := Text.trim text
  major := numeral (front.rtakeWhile isDecimalDigit)
  minor := numeral (back.takeWhile isDecimalDigit)
  build :=
    match back.dropWhile isDecimalDigit with
    | '.' :: more => numeral (more.takeWhile isDecimalDigit)
    | _ => 0

theorem getD_number?_afterDot (cs : List Char) :
    (number? (afterDot cs)).getD 0 =
      match cs with
      | '.' :: more => numeral (more.takeWhile isDecimalDigit)
      | _ => 0 := by
  split
  · exact getD_number? fun _ => List.mem_takeWhile_imp
  · rename_i hother
    rw [afterDot.eq_2 _ hother]
    rfl

theorem parse_eq_none_iff :
    parse text = none ↔ ∀ front back, ¬ DotAt text.toList front back := by
  rw [parse, Option.map_eq_none_iff, firstDotted_eq_none_iff]

theorem parse_eq_some_iff {v : OsVersion} :
    parse text = some v ↔
      ∃ front back, FirstDotAt text.toList front back ∧ v = readAt text front back := by
  have hread (front back : List Char) :
      readAt text front back =
        { description := Text.trim text
          major := (number? (front.rtakeWhile isDecimalDigit)).getD 0
          minor := (number? (back.takeWhile isDecimalDigit)).getD 0
          build := (number? (afterDot (back.dropWhile isDecimalDigit))).getD 0 } := by
    rw [getD_number? fun _ => List.mem_rtakeWhile_imp, getD_number? fun _ => List.mem_takeWhile_imp,
      getD_number?_afterDot]
    rfl
  rw [parse, Option.map_eq_some_iff]
  constructor
  · rintro ⟨⟨major, back⟩, hfound, rfl⟩
    obtain ⟨front, hdot, rfl⟩ := firstDotted_eq_some_iff.mp hfound
    exact ⟨front, back, hdot, (hread front back).symm⟩
  · rintro ⟨front, back, hdot, rfl⟩
    exact ⟨_, firstDotted_eq_some_iff.mpr ⟨front, hdot, rfl⟩, (hread front back).symm⟩

/-- A text has no version exactly if no dot in it stands between two digits. Else it has the
numbers around the first such dot, and the text without the blanks at its ends describes it. -/
theorem parse_reads_first_dotted (text : String) :
    (parse text = none ↔ ∀ front back, ¬ DotAt text.toList front back) ∧
    ∀ v, parse text = some v ↔
      ∃ front back, FirstDotAt text.toList front back ∧ v = readAt text front back :=
  ⟨parse_eq_none_iff, fun _ => parse_eq_some_iff⟩

/-- The first dot has no digit before it, the number before the second has a digit that is not one
from 0 to 9, and the last number fits no word. -/
example : parse " v.7٣.10.4294967296-rc " = some ⟨"v.7٣.10.4294967296-rc", 0, 10, 0⟩ := by decide

end Reading

end Readiness.OsVersion
