import Mathlib.Data.List.Basic
import Mathlib.Tactic.IntervalCases
import Readiness.Text.Digit

/-!
Numbers written with digits. The digits of a number read as that number in every radix up to
sixteen, and zeros in front of them change nothing.
-/

namespace Readiness.Text

variable {radix : Nat}

theorem digitValue?_digitChar {d : Nat} (hd : d < radix) (hradix : radix ≤ 16) :
    digitValue? radix d.digitChar = some d := by
  have hdigits : ∀ d < 16, digitValue? 16 d.digitChar = some d := by decide
  have hvalue := hdigits d (Nat.lt_of_lt_of_le hd hradix)
  rw [digitValue?, Option.filter_eq_some_iff] at hvalue ⊢
  exact ⟨hvalue.1, decide_eq_true hd⟩

theorem readDigits_append (value : Nat) (cs ds : List Char) :
    readDigits radix value (cs ++ ds) =
      (readDigits radix value cs).bind fun value => readDigits radix value ds := by
  induction cs generalizing value with
  | nil => rfl
  | cons c cs ih =>
      simp only [List.cons_append, readDigits]
      cases digitValue? radix c with
      | none => rfl
      | some digit => exact ih _

theorem readDigits_lt {value n : Nat} {cs : List Char} (h : readDigits radix value cs = some n) :
    n < (value + 1) * radix ^ cs.length := by
  induction cs generalizing value with
  | nil =>
      obtain rfl := Option.some.inj h
      simp
  | cons c cs ih =>
      rw [readDigits] at h
      split at h
      · rename_i digit hdigit
        have hlt : digit < radix := by simpa using (Option.filter_eq_some_iff.mp hdigit).2
        have hle : value * radix + digit + 1 ≤ (value + 1) * radix := by
          rw [Nat.add_mul]
          omega
        calc n < (value * radix + digit + 1) * radix ^ cs.length := ih h
          _ ≤ (value + 1) * radix * radix ^ cs.length := Nat.mul_le_mul_right _ hle
          _ = (value + 1) * radix ^ (c :: cs).length := by
            rw [List.length_cons, Nat.pow_succ, Nat.mul_assoc, Nat.mul_comm radix]
      · cases h

theorem readDigits_toDigits (hone : 1 < radix) (hradix : radix ≤ 16) (n : Nat) :
    readDigits radix 0 (Nat.toDigits radix n) = some n := by
  -- The digits of the quotient stand in front of the last digit.
  induction n using Nat.strong_induction_on with
  | _ n ih =>
      by_cases hn : n < radix
      · rw [Nat.toDigits_of_lt_base hn, readDigits, digitValue?_digitChar hn hradix]
        simp only [readDigits, Nat.zero_mul, Nat.zero_add]
      · have hle : radix ≤ n := Nat.le_of_not_lt hn
        have hlast : n % radix < radix := Nat.mod_lt n (by omega)
        have hquotient := ih (n / radix) (Nat.div_lt_self (by omega) hone)
        rw [Nat.toDigits_of_base_le hone hle, readDigits_append, hquotient, Option.bind_some,
          readDigits, digitValue?_digitChar hlast hradix]
        simp only [readDigits, Nat.div_add_mod']

theorem readNat?_eq_readDigits {cs : List Char} (h : cs ≠ []) :
    readNat? radix cs = readDigits radix 0 cs := by
  cases cs with
  | nil => exact absurd rfl h
  | cons c cs => rfl

theorem readNat?_toDigits (hone : 1 < radix) (hradix : radix ≤ 16) (n : Nat) :
    readNat? radix (Nat.toDigits radix n) = some n := by
  rw [readNat?_eq_readDigits Nat.toDigits_ne_nil, readDigits_toDigits hone hradix]

theorem readDigits_zeros (hone : 1 < radix) (hradix : radix ≤ 16) (count : Nat)
    (cs : List Char) :
    readDigits radix 0 (List.replicate count '0' ++ cs) = readDigits radix 0 cs := by
  have hzero : digitValue? radix '0' = some 0 :=
    digitValue?_digitChar (Nat.zero_lt_of_lt hone) hradix
  induction count with
  | zero => rfl
  | succ count ih =>
      rw [List.replicate_succ, List.cons_append, readDigits, hzero]
      simp only [Nat.zero_mul, Nat.add_zero]
      exact ih

/-- Only zero is written with a zero in front. -/
theorem eq_zero_of_head?_toDigits {n : Nat} (h : (Nat.toDigits 10 n).head? = some '0') :
    n = 0 := by
  induction n using Nat.strong_induction_on with
  | _ n ih =>
      by_cases hn : n < 10
      · rw [Nat.toDigits_of_lt_base hn, List.head?_cons, Option.some.injEq] at h
        interval_cases n <;> first | rfl | cases h
      · have hle : 10 ≤ n := Nat.le_of_not_lt hn
        have hne : Nat.toDigits 10 (n / 10) ≠ [] := Nat.toDigits_ne_nil
        rw [Nat.toDigits_of_base_le (by omega) hle, List.head?_append_of_ne_nil _ hne] at h
        have hquotient := ih (n / 10) (by omega) h
        omega

end Readiness.Text
