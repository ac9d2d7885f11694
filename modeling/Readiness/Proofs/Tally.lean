import Readiness.Proofs.Decision

/-!
The counts of a verdict. Every result is in one class, so that the counts sum up to the number of
results; they are added where lists of results are joined, and no order of the results shows.
-/

namespace Readiness

/-- What the results of a class have in common. -/
def ReportClass.Holds (r : CheckResult) : ReportClass → Prop
  | passed => r.status ≠ .fail
  | blocking => r.status = .fail ∧ r.critical = true
  | advisory => r.status = .fail ∧ r.critical = false

instance (r : CheckResult) (c : ReportClass) : Decidable (c.Holds r) :=
  match c with
  | .passed => inferInstanceAs (Decidable (r.status ≠ .fail))
  | .blocking => inferInstanceAs (Decidable (r.status = .fail ∧ r.critical = true))
  | .advisory => inferInstanceAs (Decidable (r.status = .fail ∧ r.critical = false))

theorem CheckResult.reportClass_eq_iff (r : CheckResult) (c : ReportClass) :
    r.reportClass = c ↔ c.Holds r := by
  cases hstatus : r.status <;> cases hcritical : r.critical <;> cases c <;>
    simp [reportClass, passed, ReportClass.Holds, hstatus, hcritical]

theorem CheckResult.isBlocking_eq_false_iff (r : CheckResult) :
    r.isBlocking = false ↔ ¬ (r.status = .fail ∧ r.critical = true) := by
  rw [isBlocking, beq_eq_false_iff_ne]
  exact not_congr (r.reportClass_eq_iff .blocking)

namespace Verdict

/-- The verdict over two lists together, from those over each of them. -/
def join (v w : Verdict) : Verdict where
  passed := v.passed + w.passed
  total := v.total + w.total
  criticalFailures := v.criticalFailures + w.criticalFailures
  advisories := v.advisories + w.advisories
  canInstall := v.canInstall && w.canInstall

variable (c : ReportClass) (results more : List CheckResult)

theorem count_eq_countP :
    count c results = results.countP fun r => c.Holds r := by
  refine List.countP_congr fun r _ => ?_
  rw [beq_iff_eq, decide_eq_true_eq, r.reportClass_eq_iff]

/-- Every result is counted in one class. -/
theorem count_classes :
    count .passed results + count .blocking results + count .advisory results = results.length := by
  induction results with
  | nil => rfl
  | cons r rest ih =>
      have hcons (c : ReportClass) :
          count c (r :: rest) = count c rest + if r.reportClass == c then 1 else 0 :=
        List.countP_cons
      simp only [hcons, List.length_cons]
      cases r.reportClass <;> simp <;> omega

theorem count_append : count c (results ++ more) = count c results + count c more :=
  List.countP_append

theorem canInstall_append : (ofResults (results ++ more)).canInstall =
    ((ofResults results).canInstall && (ofResults more).canInstall) := by
  rw [Bool.eq_iff_iff, Bool.and_eq_true, canInstall_iff, canInstall_iff, canInstall_iff,
    List.forall_mem_append]

theorem ofResults_append :
    ofResults (results ++ more) = (ofResults results).join (ofResults more) := by
  have hcan := canInstall_append results more
  simp only [ofResults, join, count_append, List.length_append, mk.injEq, true_and] at hcan ⊢
  exact hcan

variable {results} in
theorem ofResults_perm {others : List CheckResult} (h : results.Perm others) :
    ofResults others = ofResults results := by
  have hcount (c : ReportClass) : count c others = count c results := (h.countP_eq _).symm
  simp only [ofResults, hcount, h.length_eq]

/-- What the counts of a verdict are, for one list of results, for two joined, and for one in
another order. -/
theorem ofResults_counts :
    ((ofResults results).passed + (ofResults results).criticalFailures +
        (ofResults results).advisories = (ofResults results).total ∧
      (ofResults results).total = results.length) ∧
      (ofResults results).passed = (results.countP fun r => r.status ≠ .fail) ∧
      (ofResults results).criticalFailures =
        (results.countP fun r => r.status = .fail ∧ r.critical = true) ∧
      (ofResults results).advisories =
        (results.countP fun r => r.status = .fail ∧ r.critical = false) ∧
      ((ofResults results).canInstall = true ↔
        ∀ r ∈ results, ¬ (r.status = .fail ∧ r.critical = true)) ∧
      ofResults (results ++ more) = (ofResults results).join (ofResults more) ∧
      ∀ others : List CheckResult, results.Perm others → ofResults others = ofResults results := by
  refine ⟨⟨count_classes results, rfl⟩, ?_, ?_, ?_, ?_, ofResults_append results more,
    fun others => ofResults_perm⟩
  · exact count_eq_countP .passed results
  · exact count_eq_countP .blocking results
  · exact count_eq_countP .advisory results
  · rw [canInstall_iff]
    exact forall₂_congr fun r _ => r.isBlocking_eq_false_iff

end Verdict

end Readiness
