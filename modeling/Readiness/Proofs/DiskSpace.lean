import Readiness.Proofs.Decision
import Readiness.Proofs.JsonScalars

/-!
The weighing of free space. The check compares bytes and shows whole mebibytes, and the two agree:
a minimum is reached in bytes exactly if it is reached in the figures shown. Only a minimum beyond
every number of bytes is not weighed so, since the largest answer passes for it.
-/

namespace Readiness.Check

section Figures

/-- How the two figures are shown, both in whole mebibytes. -/
def figures (required available : Nat) : String :=
  "Required: " ++ toString required ++ " MB, Available: " ++ toString available ++ " MB"

theorem toList_figures (required available : Nat) :
    (figures required available).toList = "Required: ".toList ++ (Nat.toDigits 10 required ++
      ' ' :: ("MB, Available: ".toList ++ (Nat.toDigits 10 available ++ ' ' :: "MB".toList))) := by
  have hdigits (n : Nat) : (toString n).toList = Nat.toDigits 10 n := Nat.toList_repr
  have hmiddle : " MB, Available: ".toList = ' ' :: "MB, Available: ".toList := rfl
  have hend : " MB".toList = ' ' :: "MB".toList := rfl
  simp only [figures, String.toList_append, hdigits, hmiddle, hend, List.append_assoc,
    List.cons_append]

theorem toDigits_inj {m n : Nat} : Nat.toDigits 10 m = Nat.toDigits 10 n ↔ m = n := by
  constructor
  · intro h
    have hread := congrArg (Text.readDigits 10 0) h
    rw [Text.readDigits_toDigits (by decide) (by decide),
      Text.readDigits_toDigits (by decide) (by decide)] at hread
    exact Option.some.inj hread
  · rintro rfl
    rfl

/-- A number is told from its digits, and so is what comes after the blank behind them. -/
theorem toDigits_append_blank_inj {m n : Nat} {cs ds : List Char} :
    Nat.toDigits 10 m ++ ' ' :: cs = Nat.toDigits 10 n ++ ' ' :: ds ↔ m = n ∧ cs = ds := by
  have hsplit (n : Nat) (cs : List Char) :
      (Nat.toDigits 10 n ++ ' ' :: cs).takeWhile Json.isDigit = Nat.toDigits 10 n ∧
        (Nat.toDigits 10 n ++ ' ' :: cs).dropWhile Json.isDigit = ' ' :: cs :=
    Json.takeWhile_digits (fun _ h => Json.isDigit_of_mem_toDigits h) (by simp [Json.isDigit])
  constructor
  · intro h
    have hdigits := congrArg (List.takeWhile Json.isDigit) h
    have hrest := congrArg (List.dropWhile Json.isDigit) h
    rw [(hsplit m cs).1, (hsplit n ds).1, toDigits_inj] at hdigits
    rw [(hsplit m cs).2, (hsplit n ds).2] at hrest
    exact ⟨hdigits, List.tail_eq_of_cons_eq hrest⟩
  · rintro ⟨rfl, rfl⟩
    rfl

theorem figures_inj {required required' available available' : Nat} :
    figures required available = figures required' available' ↔
      required = required' ∧ available = available' := by
  rw [← String.toList_inj, toList_figures, toList_figures, List.append_cancel_left_eq,
    toDigits_append_blank_inj, List.append_cancel_left_eq, toDigits_append_blank_inj,
    and_iff_left rfl]

end Figures

section Weighing

variable {s : CheckSettings} {host : Host} {bytes : UInt64}

/-- The answer is the largest there is, and the minimum is more than any answer. -/
def BeyondBytes (s : CheckSettings) (bytes : UInt64) : Prop :=
  bytes.toNat = 2 ^ 64 - 1 ∧ 2 ^ 64 ≤ s.minFreeSpaceMb.toNat * 2 ^ 20

theorem requiredBytes_le_iff :
    requiredBytes s ≤ bytes.toNat ↔
      s.minFreeSpaceMb.toNat * 2 ^ 20 ≤ bytes.toNat ∨ BeyondBytes s bytes := by
  have hbytes : bytes.toNat < 2 ^ 64 := bytes.toNat_lt
  have hrequired : requiredBytes s = min (s.minFreeSpaceMb.toNat * 2 ^ 20) (2 ^ 64 - 1) := rfl
  rw [hrequired, BeyondBytes]
  omega

/-- What a number of bytes has over its whole mebibytes counts for nothing beside a minimum. -/
theorem minimum_le_iff (minimum bytes : Nat) :
    minimum * 2 ^ 20 ≤ bytes ↔ minimum ≤ bytes / mebibyte :=
  (Nat.le_div_iff_mul_le (by decide)).symm

theorem run_diskSpace
    (h : host (.availableSpace (s.installDir.getD defaultInstallDir)) = .answer bytes) :
    ∃ r, (run s .diskSpace).run host = .finished r ∧
      (r.passed = true ↔ requiredBytes s ≤ bytes.toNat) ∧
      r.details = figures s.minFreeSpaceMb.toNat (bytes.toNat / mebibyte) := by
  have hrun : (run s .diskSpace).run host = _ := Probe.run_query_bind host _ _
  rw [h] at hrun
  refine ⟨_, hrun, ?_, ?_⟩
  · change (ite (requiredBytes s ≤ bytes.toNat) _ _ : CheckResult).passed = true ↔ _
    split <;> simp_all [CheckResult.passed_pass, CheckResult.passed_fail]
  · change (ite (requiredBytes s ≤ bytes.toNat) _ _ : CheckResult).details = _
    split <;> rfl

/-- The check of free space passes exactly if the bytes reach the minimum, and exactly if the
figure available reaches the figure required in whatever two figures the details show. The one
exception to both is a minimum beyond all bytes, which the largest answer passes for. -/
theorem diskSpace_passes_iff_reached (s : CheckSettings) (host : Host) (bytes : UInt64)
    (h : host (.availableSpace (s.installDir.getD defaultInstallDir)) = .answer bytes) :
    ∃ r, (run s .diskSpace).run host = .finished r ∧
      (r.passed = true ↔
        s.minFreeSpaceMb.toNat * 2 ^ 20 ≤ bytes.toNat ∨ BeyondBytes s bytes) ∧
      (∃ required available, r.details = figures required available) ∧
      ∀ required available, r.details = figures required available →
        (r.passed = true ↔ required ≤ available ∨ BeyondBytes s bytes) := by
  obtain ⟨r, hrun, hpassed, hdetails⟩ := run_diskSpace h
  rw [requiredBytes_le_iff] at hpassed
  refine ⟨r, hrun, hpassed, ⟨_, _, hdetails⟩, fun required available hshown => ?_⟩
  obtain ⟨rfl, rfl⟩ := figures_inj.mp (hdetails.symm.trans hshown)
  rw [hpassed, minimum_le_iff]

/-- A host that answers how much space a volume has, and nothing else. -/
def volume (bytes : UInt64) : Host
  | .availableSpace _ => .answer bytes
  | _ => .panic none

/-- The minimum itself is enough, and a byte less is not. -/
theorem diskSpace_at_minimum :
    (volume 524288000 (.availableSpace defaultInstallDir) = .answer 524288000 ∧
      ∃ r, (run {} .diskSpace).run (volume 524288000) = .finished r ∧ r.passed = true) ∧
    (volume 524287999 (.availableSpace defaultInstallDir) = .answer 524287999 ∧
      ∃ r, (run {} .diskSpace).run (volume 524287999) = .finished r ∧ r.passed = false) := by
  obtain ⟨r, hrun, hpassed, -⟩ := diskSpace_passes_iff_reached {} (volume 524288000) 524288000 rfl
  obtain ⟨r', hrun', hpassed', -⟩ := diskSpace_passes_iff_reached {} (volume 524287999) 524287999 rfl
  refine ⟨⟨rfl, r, hrun, hpassed.mpr (Or.inl (by decide))⟩, ⟨rfl, r', hrun', ?_⟩⟩
  rw [← Bool.not_eq_true, hpassed', BeyondBytes]
  decide

/-- With 2 ^ 44 MB required the largest answer passes, though it is a byte short and the figure
available is less than the figure required. -/
theorem diskSpace_passes_a_byte_short :
    let s : CheckSettings := { minFreeSpaceMb := 17592186044416 }
    let bytes : UInt64 := 18446744073709551615
    ∃ r, (run s .diskSpace).run (volume bytes) = .finished r ∧ r.passed = true ∧
      ¬ s.minFreeSpaceMb.toNat * 2 ^ 20 ≤ bytes.toNat ∧
      ∃ required available, r.details = figures required available ∧ ¬ required ≤ available := by
  intro s bytes
  obtain ⟨r, hrun, hpassed, hdetails⟩ := @run_diskSpace s (volume bytes) bytes rfl
  exact ⟨r, hrun, hpassed.mpr (by decide), by decide, _, _, hdetails, by decide⟩

end Weighing

end Readiness.Check
