import Readiness.Proofs.Delivery
import Readiness.Proofs.Interleaving

/-!
What a run tells while it goes on. Checks that run one after the other are announced one by one,
each before its first question, and told once they have ended; checks that run at the same time are
told behind the last question. What is told of a check is its result, as the run returns it, and the
spinner of the command shows the announcements.
-/

namespace Readiness

namespace Checklist

variable (s : CheckSettings) (host : Host)

theorem zip_results :
    CheckId.all.zipIdx.zip (runSequential s host).results =
      CheckId.all.zipIdx.map fun place => (place, runOne s host place.1) := by
  rw [results_runSequential]
  rfl

theorem progress_runParallel (schedule : List Nat) :
    (runParallel schedule s host).progress =
      (runParallel schedule s host).results.map .finished := by
  simp only [runParallel, Checked.progress, List.filterMap_append, progress_asked, progress_told,
    List.nil_append]

theorem events_runParallel (schedule : List Nat) :
    (runParallel schedule s host).events =
      (runParallel schedule s host).asked.map .asked ++
        ((runParallel schedule s host).results.map .finished).map .told := by
  rw [asked_runParallel]
  rfl

end Checklist

section Spinner

def Action.isOfSpinner : Action → Bool
  | spinner _ | spinnerMessage _ | spinnerClear => true
  | _ => false

theorem spinner_opening (c : Config) (given : Verbosity) :
    (c.opening given).filter Action.isOfSpinner = [] := by
  have hlines : (c.parameterLines.map Action.message).filter Action.isOfSpinner = [] := by
    refine List.filter_eq_nil_iff.mpr fun a ha => ?_
    obtain ⟨line, -, rfl⟩ := List.mem_map.mp ha
    exact Bool.false_ne_true
  rw [Config.opening, List.filter_append, List.append_eq_nil_iff]
  constructor
  · split <;> rfl
  · split
    · exact hlines
    · rfl

theorem spinner_spinnerActions (progress : List Progress) :
    (spinnerActions progress).filter Action.isOfSpinner = spinnerActions progress := by
  refine List.filter_eq_self.mpr fun a ha => ?_
  obtain rfl | ha := List.mem_cons.mp ha
  · rfl
  · obtain ha | ha := List.mem_append.mp ha
    · obtain ⟨text, -, rfl⟩ := List.mem_map.mp ha
      rfl
    · obtain rfl := List.mem_singleton.mp ha
      rfl

theorem spinner_deliver (o : CheckOptions) (files : File.System) (report : String) (exit : Exit)
    (told : List Action) :
    (o.deliver files report exit told).finish.1.filter Action.isOfSpinner =
      told.filter Action.isOfSpinner := by
  have hlast (a : Action) (h : a.isOfSpinner = false) :
      (told ++ [a]).filter Action.isOfSpinner = told.filter Action.isOfSpinner := by
    rw [List.filter_append, List.filter_cons_of_neg (by simp [h])]
    exact List.append_nil _
  simp only [CheckOptions.deliver]
  cases o.output with
  | none => exact hlast _ rfl
  | some file =>
      dsimp only
      cases files.write file with
      | ok _ => exact hlast _ rfl
      | error cause => exact hlast _ rfl

theorem spinnerTexts_runSequential (s : CheckSettings) (host : Host) :
    (Checklist.runSequential s host).progress.filterMap Progress.spinnerText? =
      CheckId.all.zipIdx.map fun place =>
        "[" ++ toString (place.2 + 1) ++ "/10] " ++ place.1.name := by
  have htext (place : CheckId × Nat) :
      "[" ++ toString (place.2 + 1) ++ "/" ++ toString CheckId.all.length ++ "] " ++ place.1.name =
        "[" ++ toString (place.2 + 1) ++ "/10] " ++ place.1.name := by
    have htotal : "/" ++ toString CheckId.all.length ++ "] " = "/10] " := rfl
    rw [← htotal]
    simp only [String.append_assoc]
  rw [Checklist.progress_runSequential, List.filterMap_flatMap, List.map_eq_flatMap]
  refine congrArg (CheckId.all.zipIdx.flatMap ·) (funext fun place => ?_)
  rw [← htext]
  rfl

theorem spinnerTexts_runParallel (s : CheckSettings) (host : Host) (schedule : List Nat) :
    (Checklist.runParallel schedule s host).progress.filterMap Progress.spinnerText? = [] := by
  rw [Checklist.progress_runParallel, List.filterMap_map]
  exact List.filterMap_eq_nil_iff.mpr fun _ _ => rfl

/-- Checks that run at the same time leave the spinner as it was started. -/
theorem spinnerActions_run (parallel : Bool) (s : CheckSettings) (host : Host) :
    spinnerActions (Checklist.run parallel s host).progress =
      .spinner "Running system requirement checks..." ::
        ((if parallel then [] else CheckId.all.zipIdx.map fun (id, index) =>
          .spinnerMessage ("[" ++ toString (index + 1) ++ "/10] " ++ id.name)) ++
            [.spinnerClear]) := by
  cases parallel with
  | true =>
      rw [spinnerActions, Checklist.run, if_pos rfl, if_pos rfl, spinnerTexts_runParallel]
      rfl
  | false =>
      rw [spinnerActions, Checklist.run, if_neg Bool.false_ne_true, if_neg Bool.false_ne_true,
        spinnerTexts_runSequential, List.map_map]
      rfl

/-- A run that has a configuration has one spinner, and one that has none has no spinner. -/
theorem spinner_run (o : CheckOptions) (env : Environment) (given : Verbosity)
    (config : Option Path) :
    (o.run env given config).finish.1.filter Action.isOfSpinner =
      match o.resolve env config with
      | .error _ => []
      | .ok c => spinnerActions (Checklist.run c.settings.parallel c.checks env.host).progress := by
  simp only [CheckOptions.run]
  cases o.resolve env config with
  | error failure =>
      dsimp only
      split <;> rfl
  | ok c =>
      dsimp only
      rw [spinner_deliver, List.filter_append, spinner_opening, spinner_spinnerActions]
      rfl

end Spinner

open Checklist

/-- What is told of a run. One after the other, each check is announced at its place, asks all its
questions, and then its result is told; at the same time, the results are told in the order of the
checklist behind all questions, and nothing is announced. What is told are the results that the run
returns. The spinner of the command shows the announcements, and it is taken away once, at last. -/
theorem run_reports_progress :
    (∀ (s : CheckSettings) (host : Host) (schedule : List Nat),
      let alone := runSequential s host
      let together := runParallel schedule s host
      alone.results.map CheckResult.id = CheckId.all ∧
      alone.events = ((CheckId.all.zipIdx.zip alone.results).flatMap fun ((id, index), result) =>
        .told (.starting id index 10) :: (((Check.run s id).asked host).map .asked ++
          [.told (.finished result)])) ∧
      alone.progress = ((CheckId.all.zipIdx.zip alone.results).flatMap fun ((id, index), result) =>
        [.starting id index 10, .finished result]) ∧
      together.results = alone.results ∧
      together.events = together.asked.map .asked ++ together.progress.map .told ∧
      together.progress = together.results.map .finished) ∧
    ∀ (o : CheckOptions) (env : Environment) (given : Verbosity) (config : Option Path),
      (o.run env given config).finish.1.filter Action.isOfSpinner =
        match o.resolve env config with
        | .error _ => []
        | .ok c =>
          .spinner "Running system requirement checks..." ::
            ((if c.settings.parallel then [] else CheckId.all.zipIdx.map fun (id, index) =>
              .spinnerMessage ("[" ++ toString (index + 1) ++ "/10] " ++ id.name)) ++
                [.spinnerClear]) := by
  refine ⟨fun s host schedule => ?_, fun o env given config => ?_⟩
  · have hresults : (runSequential s host).results = CheckId.all.map (runOne s host) :=
      results_runSequential s host
    dsimp only
    rw [zip_results, List.flatMap_map, List.flatMap_map]
    refine ⟨?_, events_runSequential s host, progress_runSequential s host, ?_, ?_,
      progress_runParallel s host schedule⟩
    · rw [hresults, map_id_runOne]
    · rw [hresults, results_runParallel]
    · rw [progress_runParallel]
      exact events_runParallel s host schedule
  · rw [spinner_run]
    cases o.resolve env config with
    | error failure => rfl
    | ok c => exact spinnerActions_run c.settings.parallel c.checks env.host

end Readiness
