import Readiness.Checklist.Basic

/-!
The turns of the checklist. A check that is let run asks the questions that it has on the host and
ends as it ends there, so that a turn adds one result and the events of that check; and the whole
run is the turns of the ten checks, one behind the other.
-/

namespace Readiness.Checklist

variable (s : CheckSettings) (host : Host)

theorem record_eq (p : Probe CheckResult) (events : List Event) :
    record host p events = (p.run host, events ++ (p.asked host).map .asked) := by
  induction p generalizing events with
  | done result => simp only [record, Probe.run, Probe.asked, List.map_nil, List.append_nil]
  | ask q next ih =>
      simp only [record, Probe.run, Probe.asked, List.map_cons]
      cases host q with
      | answer a =>
          dsimp only
          rw [ih, ← List.append_cons]
      | error e =>
          dsimp only
          rw [ih, ← List.append_cons]
      | panic text => rfl

/-- The events of a check at its place. -/
def turnEvents (place : CheckId × Nat) : List Event :=
  .told (.starting place.1 place.2 CheckId.all.length) ::
    (((Check.run s place.1).asked host).map .asked ++ [.told (.finished (runOne s host place.1))])

theorem turn_eq (run : Checked) (place : CheckId × Nat) :
    turn s host run place =
      ⟨run.results ++ [runOne s host place.1], run.events ++ turnEvents s host place⟩ := by
  simp only [turn, record_eq, turnEvents, runOne, List.append_assoc, List.nil_append,
    List.cons_append]

theorem foldl_turn (places : List (CheckId × Nat)) (run : Checked) :
    places.foldl (turn s host) run =
      ⟨run.results ++ places.map fun place => runOne s host place.1,
        run.events ++ places.flatMap (turnEvents s host)⟩ := by
  induction places generalizing run with
  | nil => simp only [List.foldl_nil, List.map_nil, List.flatMap_nil, List.append_nil]
  | cons place places ih =>
      rw [List.foldl_cons, ih, turn_eq, List.map_cons, List.flatMap_cons, List.append_assoc,
        List.append_assoc, List.singleton_append]

theorem results_runSequential : (runSequential s host).results = CheckId.all.map (runOne s host) := by
  rw [runSequential, foldl_turn]
  rfl

theorem events_runSequential :
    (runSequential s host).events = CheckId.all.zipIdx.flatMap (turnEvents s host) := by
  rw [runSequential, foldl_turn]
  exact List.nil_append _

section Parts

theorem questions_told (progress : List Progress) :
    (progress.map Event.told).filterMap Event.question? = [] := by
  rw [List.filterMap_map]
  exact List.filterMap_eq_nil_iff.mpr fun _ _ => rfl

theorem questions_asked (questions : List Question) :
    (questions.map Event.asked).filterMap Event.question? = questions := by
  rw [List.filterMap_map]
  exact List.filterMap_some

theorem progress_told (progress : List Progress) :
    (progress.map Event.told).filterMap Event.progress? = progress := by
  rw [List.filterMap_map]
  exact List.filterMap_some

theorem progress_asked (questions : List Question) :
    (questions.map Event.asked).filterMap Event.progress? = [] := by
  rw [List.filterMap_map]
  exact List.filterMap_eq_nil_iff.mpr fun _ _ => rfl

end Parts

theorem questions_turnEvents (place : CheckId × Nat) :
    (turnEvents s host place).filterMap Event.question? = (Check.run s place.1).asked host := by
  rw [turnEvents, List.filterMap_cons, List.filterMap_append, questions_asked]
  exact List.append_nil _

theorem progress_turnEvents (place : CheckId × Nat) :
    (turnEvents s host place).filterMap Event.progress? =
      [.starting place.1 place.2 CheckId.all.length, .finished (runOne s host place.1)] := by
  rw [turnEvents, List.filterMap_cons, List.filterMap_append, progress_asked]
  rfl

theorem asked_runSequential :
    (runSequential s host).asked = CheckId.all.flatMap fun id => (Check.run s id).asked host := by
  rw [Checked.asked, events_runSequential, List.filterMap_flatMap]
  simp only [questions_turnEvents]
  rfl

theorem progress_runSequential :
    (runSequential s host).progress = CheckId.all.zipIdx.flatMap fun place =>
      [.starting place.1 place.2 CheckId.all.length, .finished (runOne s host place.1)] := by
  rw [Checked.progress, events_runSequential, List.filterMap_flatMap]
  simp only [progress_turnEvents]

end Readiness.Checklist
