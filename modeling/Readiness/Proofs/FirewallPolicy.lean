import Readiness.Proofs.Delivery
import Readiness.Proofs.ProbeFailure

/-!
What the policy for the firewall has a part in. Two runs under settings that differ in the policy
alone have the same results but for that of the firewall and come to the same decision. The firewall
passes under both policies if the store says that it is enabled; otherwise one policy warns of it
and the other fails it, without blocking, and a warning counts as passed.
-/

namespace Readiness

def CheckSettings.withPolicy (s : CheckSettings) (policy : FirewallPolicy) : CheckSettings :=
  { s with firewallPolicy := policy }

/-- The key of the firewall can be read and says that it is enabled. -/
def Host.FirewallEnabled (host : Host) : Prop :=
  ∃ values, host (.storeKey StoreKeys.firewall) = .answer (some values) ∧
    values.number? "EnableFirewall" = some 1

namespace Checklist

variable (s : CheckSettings) (host : Host)

section Others

variable {id : CheckId} (policy : FirewallPolicy)

theorem run_withPolicy (h : id ≠ .firewall) :
    Check.run (s.withPolicy policy) id = Check.run s id := by
  cases id with
  | firewall => exact (h rfl).elim
  | _ => rfl

theorem resultOf_withPolicy (h : id ≠ .firewall) (outcome : Outcome CheckResult) :
    resultOf (s.withPolicy policy) id outcome = resultOf s id outcome := by
  cases outcome with
  | finished r => rfl
  | panicked text =>
      cases id with
      | firewall => exact (h rfl).elim
      | _ => rfl

theorem runOne_withPolicy (h : id ≠ .firewall) :
    runOne (s.withPolicy policy) host id = runOne s host id := by
  rw [runOne, runOne, run_withPolicy s policy h, resultOf_withPolicy s policy h]

/-- The results before and behind that of the firewall are the same under all policies. -/
theorem results_withPolicy (parallel : Bool) :
    ∃ before after : List CheckResult,
      before.map CheckResult.id ++ after.map CheckResult.id = CheckId.all.erase .firewall ∧
      ∀ policy, (run parallel (s.withPolicy policy) host).results =
        before ++ runOne (s.withPolicy policy) host .firewall :: after := by
  let front := CheckId.all.takeWhile (· ≠ .firewall)
  have hall : CheckId.all = front ++ .firewall :: [.companionTool] := rfl
  refine ⟨front.map (runOne s host), [.companionTool].map (runOne s host), ?_, fun policy => ?_⟩
  · rw [map_id_runOne, map_id_runOne]
    rfl
  · have hfront : front.map (runOne (s.withPolicy policy) host) = front.map (runOne s host) := by
      refine List.map_congr_left fun id hid => runOne_withPolicy s host policy ?_
      rintro rfl
      exact absurd hid (by decide)
    have hback : [.companionTool].map (runOne (s.withPolicy policy) host) =
        [.companionTool].map (runOne s host) := by
      refine List.map_congr_left fun id hid => runOne_withPolicy s host policy ?_
      rintro rfl
      exact absurd hid (by decide)
    rw [results_run, hall, List.map_append, List.map_cons, hfront, hback]

end Others

/-- The result for a firewall: the same under all policies if it is enabled, and otherwise the
same but for the status. -/
theorem runOne_firewall :
    ∃ message details, ∀ policy,
      (host.FirewallEnabled ∧
        runOne (s.withPolicy policy) host .firewall = .pass .firewall message details) ∨
      (¬ host.FirewallEnabled ∧
        runOne (s.withPolicy policy) host .firewall =
          .make .firewall (Check.unmetFirewall policy) message details) := by
  have hfailed (policy : FirewallPolicy) (reason : String) :
      CheckResult.probeFailed .firewall (s.withPolicy policy) reason =
        .make .firewall (Check.unmetFirewall policy) "Failed to check firewall status" reason := by
    cases policy <;> rfl
  have hrun (policy : FirewallPolicy) :
      runOne (s.withPolicy policy) host .firewall = _ :=
    resultOf_asking (s.withPolicy policy) host .firewall (.storeKey StoreKeys.firewall) _
  simp only [hrun, Host.FirewallEnabled]
  cases host (.storeKey StoreKeys.firewall) with
  | answer found =>
      cases found with
      | none => exact ⟨_, _, fun policy => Or.inr ⟨by simp, rfl⟩⟩
      | some values =>
          by_cases henabled : values.number? "EnableFirewall" = some 1
          · refine ⟨_, _, fun policy => Or.inl ⟨⟨values, rfl, henabled⟩, if_pos henabled⟩⟩
          · refine ⟨_, _, fun policy => Or.inr ⟨by simpa using henabled, if_neg henabled⟩⟩
  | error e => exact ⟨_, _, fun policy => Or.inr ⟨by simp, hfailed policy _⟩⟩
  | panic text => exact ⟨_, _, fun policy => Or.inr ⟨by simp, hfailed policy _⟩⟩

end Checklist

namespace Verdict

theorem count_append_cons (c : ReportClass) (before after : List CheckResult) (r : CheckResult) :
    count c (before ++ r :: after) =
      count c (before ++ after) + if r.reportClass = c then 1 else 0 := by
  simp only [count, List.countP_append, List.countP_cons, beq_iff_eq]
  omega

/-- A result that does not block leaves the decision to the others. -/
theorem canInstall_append_cons (before after : List CheckResult) {r : CheckResult}
    (h : r.isBlocking = false) :
    (ofResults (before ++ r :: after)).canInstall = (ofResults (before ++ after)).canInstall := by
  rw [Bool.eq_iff_iff, canInstall_iff, canInstall_iff, List.forall_mem_append,
    List.forall_mem_append, List.forall_mem_cons]
  exact and_congr_right fun _ => and_iff_right h

end Verdict

namespace Checklist

section Firewall

variable (s : CheckSettings) {host : Host}

theorem firewall_not_blocking (policy : FirewallPolicy) :
    (runOne (s.withPolicy policy) host .firewall).isBlocking = false :=
  (runOne_madeFor (s.withPolicy policy) host .firewall).not_blocking rfl

theorem enabled_firewall (h : host.FirewallEnabled) (policy : FirewallPolicy) :
    (runOne (s.withPolicy policy) host .firewall).status = .pass := by
  obtain ⟨message, details, hfirewall⟩ := runOne_firewall s host
  obtain ⟨-, h⟩ | ⟨hdisabled, -⟩ := hfirewall policy
  · exact congrArg CheckResult.status h
  · exact absurd h hdisabled

theorem unmet_firewall (h : ¬ host.FirewallEnabled) :
    ∃ message details, ∀ policy, runOne (s.withPolicy policy) host .firewall =
      .make .firewall (Check.unmetFirewall policy) message details := by
  obtain ⟨message, details, hfirewall⟩ := runOne_firewall s host
  refine ⟨message, details, fun policy => ?_⟩
  obtain ⟨henabled, -⟩ | ⟨-, h⟩ := hfirewall policy
  · exact absurd henabled h
  · exact h

/-- A firewall passes under all policies if and only if it is enabled. -/
theorem firewallEnabled_iff :
    host.FirewallEnabled ↔
      ∀ policy, (runOne (s.withPolicy policy) host .firewall).status = .pass := by
  refine ⟨enabled_firewall s, fun hpass => Classical.byContradiction fun hdisabled => ?_⟩
  obtain ⟨message, details, hunmet⟩ := unmet_firewall s hdisabled
  cases (hpass .require).symm.trans (congrArg CheckResult.status (hunmet .require))

/-- A warning of a firewall is counted as passed, and its failure as advisory. -/
theorem counts_unmetFirewall (before after : List CheckResult) (message details : String) :
    let verdict (policy : FirewallPolicy) := Verdict.ofResults
      (before ++ .make .firewall (Check.unmetFirewall policy) message details :: after)
    (verdict .advisory).passed = (verdict .require).passed + 1 ∧
      (verdict .require).advisories = (verdict .advisory).advisories + 1 := by
  simp only [Verdict.ofResults, Verdict.count_append_cons]
  exact ⟨rfl, rfl⟩

end Firewall

variable (s : CheckSettings) (host : Host)

/-- The policy for the firewall shows in the result for the firewall and nowhere else. -/
theorem firewallPolicy_is_local (parallel : Bool) :
    let results (policy : FirewallPolicy) := (run parallel (s.withPolicy policy) host).results
    let verdict (policy : FirewallPolicy) := Verdict.ofResults (results policy)
    ∃ (before after : List CheckResult) (firewall : FirewallPolicy → CheckResult),
      (∀ policy, results policy = before ++ firewall policy :: after) ∧
      before.map CheckResult.id ++ after.map CheckResult.id = CheckId.all.erase .firewall ∧
      (∀ policy, (firewall policy).id = .firewall) ∧
      (∀ policy policy', (verdict policy).canInstall = (verdict policy').canInstall) ∧
      (host.FirewallEnabled ↔ ∀ policy, (firewall policy).status = .pass) ∧
      (¬ host.FirewallEnabled →
        (firewall .advisory).status = .warn ∧
        (firewall .require).status = .fail ∧ (firewall .require).isBlocking = false ∧
        (firewall .advisory).details = (firewall .require).details ∧
        (verdict .advisory).passed = (verdict .require).passed + 1 ∧
        (verdict .require).advisories = (verdict .advisory).advisories + 1) := by
  intro results verdict
  obtain ⟨before, after, hids, hresults⟩ := results_withPolicy s host parallel
  refine ⟨before, after, fun policy => runOne (s.withPolicy policy) host .firewall, hresults, hids,
    fun policy => (runOne_madeFor (s.withPolicy policy) host .firewall).id_eq,
    fun policy policy' => ?_, firewallEnabled_iff s, fun hdisabled => ?_⟩
  · have hothers (policy : FirewallPolicy) :
        (verdict policy).canInstall = (Verdict.ofResults (before ++ after)).canInstall := by
      rw [← Verdict.canInstall_append_cons before after (firewall_not_blocking s policy),
        ← hresults policy]
    rw [hothers, hothers]
  · obtain ⟨message, details, hunmet⟩ := unmet_firewall s hdisabled
    have hblocking : (runOne (s.withPolicy .require) host .firewall).isBlocking = false :=
      firewall_not_blocking s .require
    simp only [verdict, results, hresults, hunmet] at hblocking ⊢
    exact ⟨rfl, rfl, hblocking, rfl, counts_unmetFirewall before after message details⟩

end Checklist

end Readiness
