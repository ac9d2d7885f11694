import Mathlib.Data.List.Basic
import Readiness.Proofs.Digits
import Readiness.Text.Blank

/-!
Numbers below a bound, read from their digits. A decimal number is read exactly if its digits are
those from 0 to 9 and its value is below the bound; a hexadecimal number may be written in capitals
and filled up with zeros.
-/

namespace Readiness.Text

variable {radix bound : Nat}

theorem readBounded?_of_readNat? {cs : List Char} {n : Nat} (h : readNat? radix cs = some n)
    (hn : n < bound) : readBounded? radix bound cs = some n := by
  -- A plus sign is no digit.
  have hplus : ∀ rest, cs = '+' :: rest → False := by
    rintro rest rfl
    cases h
  rw [readBounded?.eq_2 radix bound cs hplus, h, Option.filter_some, if_pos (decide_eq_true hn)]

section Digits

variable {cs : List Char} {c : Char} {n : Nat}

theorem le_iff_toNat_le {a b : Char} : a ≤ b ↔ a.toNat ≤ b.toNat := Iff.rfl

theorem not_mem_of_readDigits {value : Nat} (h : readDigits radix value cs = some n)
    (hc : digitValue? radix c = none) : c ∉ cs := by
  induction cs generalizing value with
  | nil => exact List.not_mem_nil
  | cons d cs ih =>
      rw [readDigits] at h
      split at h
      · rename_i digit hdigit
        have hne : c ≠ d := by
          rintro rfl
          cases hc.symm.trans hdigit
        exact List.not_mem_cons_of_ne_of_not_mem hne (ih h)
      · cases h

/-- What is read as a number has digits only. -/
theorem not_mem_of_readNat? (h : readNat? radix cs = some n) (hc : digitValue? radix c = none) :
    c ∉ cs := by
  cases cs with
  | nil => cases h
  | cons d cs => exact not_mem_of_readDigits h hc

theorem digitValue?_of_isBlank (h : isBlank c = true) : digitValue? radix c = none := by
  simp only [isBlank, Bool.or_eq_true, Bool.and_eq_true, decide_eq_true_eq, beq_iff_eq] at h
  simp only [digitValue?, le_iff_toNat_le, Char.reduceToNat]
  rw [if_neg (by omega), if_neg (by omega), if_neg (by omega), Option.filter_none]

theorem isBlank_of_readNat? (h : readNat? radix cs = some n) : ∀ c ∈ cs, isBlank c = false :=
  fun _ hc => Bool.eq_false_iff.mpr fun hblank =>
    not_mem_of_readNat? h (digitValue?_of_isBlank hblank) hc

theorem isBlank_toDigits : ∀ c ∈ Nat.toDigits 10 n, isBlank c = false :=
  isBlank_of_readNat? (readNat?_toDigits (by decide) (by decide) n)

end Digits

section Decimal

theorem digitValue?_ten (c : Char) :
    digitValue? 10 c = if c.isDigit then some (c.toNat - '0'.toNat) else none := by
  have hdigit : c.isDigit = true ↔ '0' ≤ c ∧ c ≤ '9' := by simp [Char.isDigit, Char.le_def]
  simp only [digitValue?, hdigit]
  split
  · rename_i h
    have hnine : c.toNat ≤ '9'.toNat := Char.le_def.mp h.2
    have hlt : c.toNat - '0'.toNat < 10 := by
      simp only [Char.reduceToNat] at hnine ⊢
      omega
    rw [Option.filter_some, if_pos (decide_eq_true hlt)]
  -- Letters stand for ten and more.
  · split
    · simp
    · split
      · simp
      · rfl

theorem readDigits_ten (value : Nat) (cs : List Char) :
    readDigits 10 value cs =
      if cs.all Char.isDigit then some (Nat.ofDigitChars 10 cs value) else none := by
  induction cs generalizing value with
  | nil => rfl
  | cons c cs ih =>
      rw [readDigits, digitValue?_ten, List.all_cons]
      cases c.isDigit with
      | false => rfl
      | true => simp only [if_true, Bool.true_and, ih, Nat.ofDigitChars_cons, Nat.mul_comm 10]

theorem readNat?_ten_eq_some_iff {cs : List Char} {n : Nat} :
    readNat? 10 cs = some n ↔
      cs ≠ [] ∧ (∀ c ∈ cs, c.isDigit = true) ∧ Nat.ofDigitChars 10 cs 0 = n := by
  cases cs with
  | nil => simp [readNat?]
  | cons c cs => simp [readNat?, readDigits_ten]

theorem readBounded?_ten {cs : List Char} (hne : cs ≠ []) (hplus : cs.head? ≠ some '+') :
    readBounded? 10 bound cs =
      if cs.all Char.isDigit = true ∧ Nat.ofDigitChars 10 cs 0 < bound then
        some (Nat.ofDigitChars 10 cs 0)
      else none := by
  have hsign : ∀ rest, cs = '+' :: rest → False := by
    rintro rest rfl
    exact hplus rfl
  rw [readBounded?.eq_2 10 bound cs hsign, readNat?_eq_readDigits hne, readDigits_ten]
  by_cases hdigits : cs.all Char.isDigit = true
  · rw [if_pos hdigits, Option.filter_some]
    simp only [decide_eq_true_eq, and_iff_right hdigits]
  · rw [if_neg hdigits, if_neg fun h => hdigits h.1]
    rfl

end Decimal

section Hexadecimal

theorem toNat_toUpper {c : Char} (h : 'a'.val ≤ c.val ∧ c.val ≤ 'z'.val) :
    c.toUpper.toNat = c.toNat - 32 := by
  have hlow : 97 ≤ c.val.toNat := h.1
  have hhigh : c.val.toNat ≤ 122 := h.2
  have hsum : (c.val + ('A'.val - 'a'.val)).toNat = c.val.toNat - 32 := by
    have hshift : ('A'.val - 'a'.val).toNat = 2 ^ 32 - 32 := rfl
    rw [UInt32.toNat_add, hshift]
    omega
  have hupper : c.toUpper = _ := dif_pos h
  rw [hupper]
  exact hsum

theorem digitValue?_toUpper (c : Char) : digitValue? radix c.toUpper = digitValue? radix c := by
  by_cases h : 'a'.val ≤ c.val ∧ c.val ≤ 'z'.val
  · have hlow : 97 ≤ c.toNat := h.1
    have hhigh : c.toNat ≤ 122 := h.2
    simp only [digitValue?, le_iff_toNat_le, toNat_toUpper h, Char.reduceToNat]
    congr 1
    grind
  · have hupper : c.toUpper = c := dif_neg h
    rw [hupper]

theorem readDigits_map_toUpper (value : Nat) (cs : List Char) :
    readDigits radix value (cs.map Char.toUpper) = readDigits radix value cs := by
  induction cs generalizing value with
  | nil => rfl
  | cons c cs ih => simp only [List.map_cons, readDigits, digitValue?_toUpper, ih]

/-- A number in capital hexadecimal digits, filled up with zeros to a width. -/
def hexadecimal (width n : Nat) : List Char :=
  ((Nat.toDigits 16 n).map Char.toUpper).leftpad width '0'

theorem hexadecimal_ne_nil (width n : Nat) : hexadecimal width n ≠ [] := by
  simp [hexadecimal, List.leftpad]

theorem readNat?_hexadecimal (width n : Nat) : readNat? 16 (hexadecimal width n) = some n := by
  rw [readNat?_eq_readDigits (hexadecimal_ne_nil width n), hexadecimal, List.leftpad,
    readDigits_zeros (by decide) (by decide), readDigits_map_toUpper,
    readDigits_toDigits (by decide) (by decide)]

theorem isBlank_hexadecimal {width n : Nat} : ∀ c ∈ hexadecimal width n, isBlank c = false :=
  isBlank_of_readNat? (readNat?_hexadecimal width n)

end Hexadecimal

end Readiness.Text
