import Readiness.Host.Probe

/-!
Runs of computations that ask. A computation in two parts runs as its parts one after the other; a
run depends on the replies to its own questions only; and on a host some of whose questions panic,
a run is the run without these panics, up to the first of its questions that panics.
-/

namespace Readiness

/-- The replies of a host on which nothing panics. -/
abbrev Answers := (q : Question) → Except ProbeError q.Answer

namespace Host

/-- The host that gives these answers. -/
def ofAnswers (answers : Answers) : Host := fun q => Reply.ofExcept (answers q)

/-- A host some of whose questions panic, each with what its panic carries. -/
def panicking (panics : Question → Option (Option String)) (host : Host) : Host := fun q =>
  match panics q with
  | some text => .panic text
  | none => host q

theorem panicking_some {panics : Question → Option (Option String)} {q : Question}
    {text : Option String} (h : panics q = some text) (host : Host) :
    host.panicking panics q = .panic text := by
  simp only [panicking, h]

theorem panicking_none {panics : Question → Option (Option String)} {q : Question}
    (h : panics q = none) (host : Host) : host.panicking panics q = host q := by
  simp only [panicking, h]

end Host

namespace Probe

variable {α β : Type} (host : Host)

@[simp] theorem run_pure (a : α) : (pure a : Probe α).run host = .finished a := rfl

@[simp] theorem run_query_bind (q : Question) (f : Except ProbeError q.Answer → Probe α) :
    (query q >>= f).run host =
      match host q with
      | .answer a => (f (.ok a)).run host
      | .error e => (f (.error e)).run host
      | .panic text => .panicked text := by
  change (ask q f).run host = _
  cases h : host q <;> simp only [run, h]

theorem run_bind (p : Probe α) (f : α → Probe β) :
    (p >>= f).run host =
      match p.run host with
      | .finished a => (f a).run host
      | .panicked text => .panicked text := by
  induction p with
  | done a => rfl
  | ask q next ih =>
      change (ask q fun reply => next reply >>= f).run host = _
      simp only [run]
      cases host q with
      | answer a => exact ih (.ok a)
      | error e => exact ih (.error e)
      | panic text => rfl

@[simp] theorem asked_pure (a : α) : (pure a : Probe α).asked host = [] := rfl

theorem asked_query_bind (q : Question) (f : Except ProbeError q.Answer → Probe α) :
    (query q >>= f).asked host =
      q :: match host q with
        | .answer a => (f (.ok a)).asked host
        | .error e => (f (.error e)).asked host
        | .panic _ => [] := by
  change (ask q f).asked host = _
  cases h : host q <;> simp only [asked, h]

theorem asked_bind (p : Probe α) (f : α → Probe β) :
    (p >>= f).asked host =
      p.asked host ++
        match p.run host with
        | .finished a => (f a).asked host
        | .panicked _ => [] := by
  induction p with
  | done a => rfl
  | ask q next ih =>
      change (ask q fun reply => next reply >>= f).asked host = _
      simp only [asked, run]
      cases host q with
      | answer a => exact congrArg (q :: ·) (ih (.ok a))
      | error e => exact congrArg (q :: ·) (ih (.error e))
      | panic text => rfl

/-- What follows a computation and asks nothing leaves its questions as they are. -/
theorem asked_bind_of_silent (p : Probe α) {f : α → Probe β} (h : ∀ a, (f a).asked host = []) :
    (p >>= f).asked host = p.asked host := by
  rw [asked_bind]
  cases p.run host <;> simp only [h, List.append_nil]

theorem bind_assoc {γ : Type} (p : Probe α) (f : α → Probe β) (g : β → Probe γ) :
    p >>= f >>= g = p >>= fun a => f a >>= g := by
  induction p with
  | done a => rfl
  | ask q next ih => exact congrArg (ask q) (funext ih)

variable {host}

/-- The first question of a run that panics ends it; the run is as without panics otherwise. -/
theorem run_panicking (panics : Question → Option (Option String)) (p : Probe α) :
    p.run (host.panicking panics) =
      match (p.asked host).findSome? panics with
      | some text => .panicked text
      | none => p.run host := by
  induction p with
  | done a => rfl
  | ask q next ih =>
      cases hq : panics q with
      | some text =>
          simp only [run, asked, Host.panicking_some hq, List.findSome?_cons, hq]
      | none =>
          simp only [run, asked, Host.panicking_none hq, List.findSome?_cons, hq]
          cases host q with
          | answer a => exact ih (.ok a)
          | error e => exact ih (.error e)
          | panic text => rfl

/-- Panics cut the questions of a run short, and the first of them stays the first. -/
theorem findSome?_asked_panicking (panics : Question → Option (Option String)) (p : Probe α) :
    (p.asked (host.panicking panics)).findSome? panics = (p.asked host).findSome? panics := by
  induction p with
  | done a => rfl
  | ask q next ih =>
      cases hq : panics q with
      | some text => simp only [asked, List.findSome?_cons, hq]
      | none =>
          simp only [asked, Host.panicking_none hq, List.findSome?_cons, hq]
          cases host q with
          | answer a => exact ih (.ok a)
          | error e => exact ih (.error e)
          | panic text => rfl

/-- A host without panics lets every computation finish. -/
theorem run_ofAnswers (answers : Answers) (p : Probe α) :
    ∃ a, p.run (.ofAnswers answers) = .finished a := by
  induction p with
  | done a => exact ⟨a, rfl⟩
  | ask q next ih =>
      simp only [run, Host.ofAnswers]
      cases answers q with
      | ok a => exact ih (.ok a)
      | error e => exact ih (.error e)

/-- Every way in which a computation can end satisfies `P`. -/
def Ends (P : α → Prop) : Probe α → Prop
  | done a => P a
  | ask _ next => ∀ reply, (next reply).Ends P

variable {P : β → Prop}

theorem ends_bind {f : α → Probe β} (h : ∀ a, (f a).Ends P) (p : Probe α) :
    (p >>= f).Ends P := by
  induction p with
  | done a => exact h a
  | ask q next ih => exact fun reply => ih reply

theorem Ends.of_run {p : Probe β} (h : p.Ends P) {b : β} (hr : p.run host = .finished b) :
    P b := by
  induction p with
  | done a =>
      cases hr
      exact h
  | ask q next ih =>
      simp only [run] at hr
      cases hq : host q with
      | answer a => exact ih (.ok a) (h _) (by simpa only [hq] using hr)
      | error e => exact ih (.error e) (h _) (by simpa only [hq] using hr)
      | panic text => simp only [hq, reduceCtorEq] at hr

end Probe
end Readiness
