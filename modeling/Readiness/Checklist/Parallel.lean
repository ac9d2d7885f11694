import Readiness.Checklist.Basic

/-!
The checklist with all checks at the same time. A schedule says which check asks its next question;
the results are put together in the order of the checklist once all checks have ended.
-/

namespace Readiness.Checklist

/-- How far a check has come. -/
inductive Stage
  | running (rest : Probe CheckResult)
  | ended (outcome : Outcome CheckResult)

namespace Stage

/-- The stage after the next question, and that question. A check without a question left ends. -/
def step (host : Host) : Stage → Stage × List Question
  | running (.done result) => (ended (.finished result), [])
  | running (.ask q next) =>
    match host q with
    | .answer a => (running (next (.ok a)), [q])
    | .error e => (running (next (.error e)), [q])
    | .panic text => (ended (.panicked text), [q])
  | ended outcome => (ended outcome, [])

/-- How a check ends that is let run. -/
def outcome (host : Host) : Stage → Outcome CheckResult
  | running rest => rest.run host
  | ended outcome => outcome

def unasked (host : Host) : Stage → List Question
  | running rest => rest.asked host
  | ended _ => []

end Stage

structure Thread where
  id : CheckId
  stage : Stage

/-- The threads after the one at a place has asked. -/
def stepAt (host : Host) (place : Nat) (threads : List Thread) : List Thread × List Question :=
  match threads[place]? with
  | some t =>
    let (stage, asked) := t.stage.step host
    (threads.set place ⟨t.id, stage⟩, asked)
  | none => (threads, [])

/-- The threads after a schedule, and the questions in their order. -/
def follow (host : Host) : List Nat → List Thread → List Thread × List Question
  | [], threads => (threads, [])
  | place :: schedule, threads =>
    let (threads, asked) := stepAt host place threads
    let (threads, more) := follow host schedule threads
    (threads, asked ++ more)

/-- How a thread ends: a panic of its check is caught on it. -/
def Thread.outcome (s : CheckSettings) (host : Host) (t : Thread) : Outcome CheckResult :=
  .finished (resultOf s t.id (t.stage.outcome host))

/-- The result of a thread, which is waited for. A thread that panics itself has the result of a
check that could not ask. -/
def Thread.join (s : CheckSettings) (host : Host) (t : Thread) : CheckResult :=
  match t.outcome s host with
  | .finished result => result
  | .panicked text => .probeFailed t.id s (panicText text)

def threads (s : CheckSettings) : List Thread :=
  CheckId.all.map fun id => ⟨id, .running (Check.run s id)⟩

/-- All checks at once. What the schedule leaves undone is done while the threads are joined. -/
def runParallel (schedule : List Nat) (s : CheckSettings) (host : Host) : Checked :=
  let (threads, asked) := follow host schedule (threads s)
  let results := threads.map (Thread.join s host)
  let questions := asked ++ threads.flatMap fun t => t.stage.unasked host
  { results := results
    events := questions.map .asked ++ (results.map .finished).map .told }

def run (parallel : Bool) (s : CheckSettings) (host : Host) : Checked :=
  if parallel then runParallel [] s host else runSequential s host

end Readiness.Checklist
