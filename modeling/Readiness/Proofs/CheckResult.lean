import Readiness.Checklist.Basic
import Readiness.Proofs.Probe

/-!
What every check has in common. However a check ends, its result was made for it: it carries the
check's id, is as critical as the check, and opens with its sign. A check of a single question
comes to the judgement of the answer, or to the check's own result for a question that failed.
-/

namespace Readiness

theorem CheckId.mem_all (id : CheckId) : id ∈ CheckId.all := by
  cases id <;> decide

namespace CheckResult

/-- A result that was made for a check, with whatever status and texts. -/
def MadeFor (id : CheckId) (r : CheckResult) : Prop :=
  ∃ status message details, r = .make id status message details

theorem make_madeFor (id : CheckId) (status : Status) (message details : String) :
    (make id status message details).MadeFor id :=
  ⟨status, message, details, rfl⟩

theorem probeFailed_madeFor (id : CheckId) (s : CheckSettings) (reason : String) :
    (probeFailed id s reason).MadeFor id :=
  make_madeFor id _ _ reason

theorem MadeFor.id_eq {id : CheckId} {r : CheckResult} (h : r.MadeFor id) : r.id = id := by
  obtain ⟨_, _, _, rfl⟩ := h
  rfl

theorem MadeFor.critical_eq {id : CheckId} {r : CheckResult} (h : r.MadeFor id) :
    r.critical = id.isCritical := by
  obtain ⟨_, _, _, rfl⟩ := h
  rfl

theorem passed_pass (id : CheckId) (message details : String) :
    (pass id message details).passed = true := rfl

theorem passed_fail (id : CheckId) (message details : String) :
    (fail id message details).passed = false := rfl

/-- A blocking result is a failure of a critical check. -/
theorem isBlocking_eq (r : CheckResult) : r.isBlocking = (!r.passed && r.critical) := by
  simp only [isBlocking, reportClass]
  cases r.passed <;> cases r.critical <;> rfl

end CheckResult

namespace Check

open CheckResult (MadeFor make_madeFor probeFailed_madeFor)

variable (s : CheckSettings)

theorem asking_ends {id : CheckId} {q : Question} {judge : q.Answer → CheckResult}
    {P : CheckResult → Prop} (hjudge : ∀ a, P (judge a))
    (hfailed : ∀ reason, P (.probeFailed id s reason)) : (asking s id q judge).Ends P := by
  refine Probe.ends_bind (fun reply => ?_) _
  cases reply with
  | ok a => exact hjudge a
  | error e => exact hfailed e.message

theorem asking_madeFor {id : CheckId} {q : Question} {judge : q.Answer → CheckResult}
    (h : ∀ a, (judge a).MadeFor id) : (asking s id q judge).Ends (MadeFor id) :=
  asking_ends s h (probeFailed_madeFor id s)

theorem databaseListing_madeFor (path : Path) :
    (databaseListing s path).Ends (MadeFor .databasePath) := by
  refine Probe.ends_bind (fun reply => ?_) _
  cases reply with
  | ok entries =>
      refine Probe.ends_bind (fun count => ?_) _
      change (dataFilesResult path count).MadeFor .databasePath
      simp only [dataFilesResult]
      split <;> exact make_madeFor _ _ _ _
  | error e => exact probeFailed_madeFor _ s e.message

theorem companionResult_madeFor (reply : Except ProbeError ToolOutput) :
    (companionResult s reply).MadeFor .companionTool := by
  cases reply with
  | ok output =>
      simp only [companionResult]
      split <;> exact make_madeFor _ _ _ _
  | error e => exact make_madeFor _ _ _ _

theorem run_madeFor (id : CheckId) : (run s id).Ends (MadeFor id) := by
  cases id with
  | osVersion | elevation | diskSpace | port =>
      refine asking_madeFor s fun a => ?_
      split <;> exact make_madeFor _ _ _ _
  | managedRuntime =>
      refine asking_madeFor s fun a => ?_
      split
      · exact make_madeFor _ _ _ _
      · dsimp only
        split <;> exact make_madeFor _ _ _ _
  | firewall =>
      refine asking_madeFor s fun a => ?_
      split
      · exact make_madeFor _ _ _ _
      · split <;> exact make_madeFor _ _ _ _
  | databaseDriver | nativeRuntime =>
      refine Probe.ends_bind (fun found => ?_) _
      cases found with
      | found a => exact make_madeFor _ _ _ _
      | notFound => exact make_madeFor _ _ _ _
      | failed e => exact probeFailed_madeFor _ s e.message
  | databasePath =>
      simp only [run, databasePath]
      split
      · exact make_madeFor _ _ _ _
      · refine Probe.ends_bind (fun reply => ?_) _
        split
        · exact databaseListing_madeFor s _
        · exact make_madeFor _ _ _ _
        · exact probeFailed_madeFor _ s _
  | companionTool =>
      refine Probe.ends_bind (fun reply => ?_) _
      exact companionResult_madeFor s reply

end Check

namespace Checklist

open CheckResult (MadeFor probeFailed)

variable (s : CheckSettings) (host : Host)

theorem resultOf_finished (id : CheckId) (r : CheckResult) : resultOf s id (.finished r) = r := rfl

theorem resultOf_panicked (id : CheckId) (text : Option String) :
    resultOf s id (.panicked text) = probeFailed id s (panicReason text) := rfl

theorem runOne_madeFor (id : CheckId) : (runOne s host id).MadeFor id := by
  simp only [runOne]
  cases h : (Check.run s id).run host with
  | finished r => exact (Check.run_madeFor s id).of_run h
  | panicked text => exact CheckResult.probeFailed_madeFor id s _

theorem map_id_runOne (ids : List CheckId) :
    (ids.map (runOne s host)).map CheckResult.id = ids := by
  simp only [List.map_map]
  exact List.map_id'' (fun id => (runOne_madeFor s host id).id_eq) ids

/-- A check of one question: the answer is judged, and an error or a panic takes its place. -/
theorem resultOf_asking (id : CheckId) (q : Question) (judge : q.Answer → CheckResult) :
    resultOf s id ((Check.asking s id q judge).run host) =
      match host q with
      | .answer a => judge a
      | .error e => probeFailed id s e.message
      | .panic text => probeFailed id s (panicReason text) := by
  simp only [Check.asking, Probe.run_query_bind]
  cases host q <;> rfl

end Checklist
end Readiness
