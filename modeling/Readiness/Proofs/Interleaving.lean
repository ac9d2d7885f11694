import Readiness.Checklist.Parallel
import Readiness.Proofs.Turns

/-!
The questions of checks that run at the same time. A turn of a thread takes its question from those
that the thread has still to ask, so that no schedule adds a question, drops one or asks one twice:
the questions are those of the checks one after the other, in another order.
-/

namespace Readiness.Checklist

variable (host : Host)

theorem asked_step (stage : Stage) :
    (stage.step host).2 ++ (stage.step host).1.unasked host = stage.unasked host := by
  cases stage with
  | ended outcome => rfl
  | running rest =>
      cases rest with
      | done result => rfl
      | ask q next =>
          simp only [Stage.step, Stage.unasked, Probe.asked]
          cases host q <;> rfl

/-- What threads have still to ask. -/
def unasked (threads : List Thread) : List Question :=
  threads.flatMap fun t => t.stage.unasked host

theorem unasked_append_cons (before after : List Thread) (t : Thread) :
    unasked host (before ++ t :: after) =
      unasked host before ++ (t.stage.unasked host ++ unasked host after) := by
  simp only [unasked, List.flatMap_append, List.flatMap_cons]

theorem asked_stepAt (place : Nat) (threads : List Thread) :
    ((stepAt host place threads).2 ++ unasked host (stepAt host place threads).1).Perm
      (unasked host threads) := by
  simp only [stepAt]
  cases h : threads[place]? with
  | none => exact .refl _
  | some t =>
      obtain ⟨hlt, rfl⟩ := List.getElem?_eq_some_iff.mp h
      let stage := threads[place].stage
      let t' : Thread := ⟨threads[place].id, (stage.step host).1⟩
      have hsplit : ∃ before after, threads = before ++ threads[place] :: after ∧
          before.length = place ∧ threads.set place t' = before ++ t' :: after :=
        List.exists_of_set hlt
      obtain ⟨before, after, hthreads, -, hset⟩ := hsplit
      have hunasked : unasked host threads =
          unasked host before ++ (stage.unasked host ++ unasked host after) :=
        (congrArg (unasked host) hthreads).trans (unasked_append_cons host before after _)
      have hstepped : unasked host (threads.set place t') =
          unasked host before ++ ((stage.step host).1.unasked host ++ unasked host after) :=
        (congrArg (unasked host) hset).trans (unasked_append_cons host before after t')
      change ((stage.step host).2 ++ unasked host (threads.set place t')).Perm _
      rw [hstepped, hunasked, ← asked_step host stage, List.append_assoc]
      exact List.perm_append_comm_assoc _ _ _

theorem asked_follow (schedule : List Nat) (threads : List Thread) :
    ((follow host schedule threads).2 ++ unasked host (follow host schedule threads).1).Perm
      (unasked host threads) := by
  induction schedule generalizing threads with
  | nil => exact .refl _
  | cons place schedule ih =>
      simp only [follow, List.append_assoc]
      exact ((ih _).append_left _).trans (asked_stepAt host place threads)

variable (s : CheckSettings)

theorem unasked_threads :
    unasked host (threads s) = CheckId.all.flatMap fun id => (Check.run s id).asked host := by
  rw [unasked, threads, List.flatMap_map]
  rfl

/-- What is told at the end is no question. -/
theorem asked_runParallel (schedule : List Nat) :
    (runParallel schedule s host).asked =
      (follow host schedule (threads s)).2 ++ unasked host (follow host schedule (threads s)).1 := by
  simp only [runParallel, Checked.asked, List.filterMap_append, questions_asked, questions_told,
    List.append_nil, unasked]

theorem asked_runParallel_perm (schedule : List Nat) :
    (runParallel schedule s host).asked.Perm (runSequential s host).asked := by
  rw [asked_runParallel, asked_runSequential, ← unasked_threads]
  exact asked_follow host schedule (threads s)

end Readiness.Checklist
