import Readiness.Checklist.Parallel
import Readiness.Proofs.CheckResult
import Readiness.Proofs.Turns

/-!
Checks do not disturb each other. Whatever the schedule, a thread comes to what its check comes to
when it is let run alone, so that checks at the same time have the results of checks one after the
other; and a panic shows in the result of the check whose question it was, and in no other.
-/

namespace Readiness.Checklist

open CheckResult (probeFailed)

variable (s : CheckSettings) (host : Host)

/-- One turn of a thread does not change what it will come to. -/
theorem outcome_step (stage : Stage) : (stage.step host).1.outcome host = stage.outcome host := by
  cases stage with
  | ended outcome => rfl
  | running rest =>
      cases rest with
      | done result => rfl
      | ask q next =>
          simp only [Stage.step, Stage.outcome, Probe.run]
          cases host q <;> rfl

/-- What the threads will come to, each under the id of its check. -/
def endings (threads : List Thread) : List (CheckId × Outcome CheckResult) :=
  threads.map fun t => (t.id, t.stage.outcome host)

theorem endings_stepAt (place : Nat) (threads : List Thread) :
    endings host (stepAt host place threads).1 = endings host threads := by
  simp only [stepAt]
  cases h : threads[place]? with
  | none => rfl
  | some t =>
      simp only [endings, List.map_set, outcome_step]
      obtain ⟨hlt, rfl⟩ := List.getElem?_eq_some_iff.mp h
      apply List.ext_getElem
      · simp
      · intro i hi hi'
        rw [List.getElem_set]
        split
        · subst place
          simp
        · rfl

theorem endings_follow (schedule : List Nat) (threads : List Thread) :
    endings host (follow host schedule threads).1 = endings host threads := by
  induction schedule generalizing threads with
  | nil => rfl
  | cons place schedule ih =>
      calc
        endings host (follow host (place :: schedule) threads).1 =
            endings host (stepAt host place threads).1 := ih _
        _ = endings host threads := endings_stepAt host place threads

/-- A thread that is waited for has the result of its check: its panics are caught on it. -/
theorem map_join (threads : List Thread) :
    threads.map (Thread.join s host) =
      (endings host threads).map fun (id, outcome) => resultOf s id outcome := by
  simp only [endings, List.map_map]
  rfl

theorem endings_threads :
    endings host (threads s) = CheckId.all.map fun id => (id, (Check.run s id).run host) := by
  simp only [endings, threads, List.map_map]
  rfl

/-- No schedule matters. -/
theorem results_runParallel (schedule : List Nat) :
    (runParallel schedule s host).results = CheckId.all.map (runOne s host) := by
  calc
    (runParallel schedule s host).results =
        (endings host (follow host schedule (threads s)).1).map
          (fun (id, outcome) => resultOf s id outcome) := map_join s host _
    _ = (endings host (threads s)).map (fun (id, outcome) => resultOf s id outcome) := by
      rw [endings_follow]
    _ = CheckId.all.map (runOne s host) := by
      rw [endings_threads, List.map_map]
      rfl

/-- Checks at the same time have the results of checks one after the other, in the order of the
checklist, under every schedule. -/
theorem runParallel_same_results (schedule : List Nat) :
    (runParallel schedule s host).results = (runSequential s host).results ∧
      (runParallel schedule s host).results.map CheckResult.id = CheckId.all := by
  rw [results_runParallel, results_runSequential]
  exact ⟨rfl, map_id_runOne s host CheckId.all⟩

/-- A check on a host some of whose questions panic: the first of its own questions to panic
decides, and without one it comes to what it comes to where nothing panics. -/
theorem runOne_panicking (panics : Question → Option (Option String)) (id : CheckId) :
    match ((Check.run s id).asked (host.panicking panics)).findSome? panics with
    | some text => runOne s (host.panicking panics) id = probeFailed id s (panicReason text)
    | none => (Check.run s id).run (host.panicking panics) = (Check.run s id).run host := by
  rw [Probe.findSome?_asked_panicking]
  have hrun : (Check.run s id).run (host.panicking panics) = _ :=
    Probe.run_panicking panics (Check.run s id)
  cases hfirst : ((Check.run s id).asked host).findSome? panics with
  | some text =>
      rw [hfirst] at hrun
      simp only [runOne, hrun, resultOf_panicked]
  | none => simpa only [hfirst] using hrun

/-- Panics are contained. In both modes there are ten results in order; that of a check whose own
questions reach a panic tells the first one, and every other result is that of the check alone, on
the host as it is and on the host without panics. -/
theorem panics_are_contained (answers : Answers) (panics : Question → Option (Option String))
    (schedule : List Nat) :
    ∃ result : CheckId → CheckResult,
      (runSequential s ((Host.ofAnswers answers).panicking panics)).results =
          CheckId.all.map result ∧
        (runParallel schedule s ((Host.ofAnswers answers).panicking panics)).results =
          CheckId.all.map result ∧
        CheckId.all.length = 10 ∧ (∀ id, (result id).id = id) ∧
        ∀ id,
          match ((Check.run s id).asked
            ((Host.ofAnswers answers).panicking panics)).findSome? panics with
          | some text =>
              result id = probeFailed id s
                ("check panicked: " ++ text.getD "non-string panic payload")
          | none =>
              (Check.run s id).run ((Host.ofAnswers answers).panicking panics) =
                  .finished (result id) ∧
                (Check.run s id).run (.ofAnswers answers) = .finished (result id) := by
  refine ⟨runOne s ((Host.ofAnswers answers).panicking panics),
    results_runSequential s _, results_runParallel s _ schedule, rfl, fun id => (runOne_madeFor s _ id).id_eq, ?_⟩
  intro id
  have hrun := runOne_panicking s (Host.ofAnswers answers) panics id
  split
  · rename_i text hfirst
    rw [hfirst] at hrun
    exact hrun
  · rename_i hfirst
    rw [hfirst] at hrun
    obtain ⟨r, hr⟩ := Probe.run_ofAnswers answers (Check.run s id)
    have hone : runOne s ((Host.ofAnswers answers).panicking panics) id = r := by
      simp only [runOne, hrun, hr, resultOf_finished]
    rw [hone]
    exact ⟨hrun.trans hr, hr⟩

end Readiness.Checklist
