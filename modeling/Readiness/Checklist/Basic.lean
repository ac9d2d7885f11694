import Readiness.Check.Conditions

/-!
The checklist: the ten checks on one host, one after the other. A check that panics has the result
of a check that could not ask, and does not disturb the others.
-/

namespace Readiness

/-- What a run tells while it goes on. -/
inductive Progress
  | starting (id : CheckId) (index total : Nat)
  | finished (result : CheckResult)
  deriving DecidableEq, Repr

/-- What happens in a run: something is told, or the host is asked. -/
inductive Event
  | told (progress : Progress)
  | asked (question : Question)
  deriving DecidableEq, Repr

namespace Event

def progress? : Event → Option Progress
  | told progress => some progress
  | asked _ => none

def question? : Event → Option Question
  | told _ => none
  | asked question => some question

end Event

structure Checked where
  results : List CheckResult := []
  /-- What happened, in its order. -/
  events : List Event := []

namespace Checked

def progress (c : Checked) : List Progress := c.events.filterMap Event.progress?

/-- The questions, in the order in which they were asked. -/
def asked (c : Checked) : List Question := c.events.filterMap Event.question?

end Checked

namespace Checklist

/-- What a panic says, with words of its own where it carries no text. -/
def panicText (text : Option String) : String := text.getD "non-string panic payload"

/-- Why a check that panicked could not ask. -/
def panicReason (text : Option String) : String := "check panicked: " ++ panicText text

/-- The result for an end of a check. -/
def resultOf (s : CheckSettings) (id : CheckId) : Outcome CheckResult → CheckResult
  | .finished result => result
  | .panicked text => .probeFailed id s (panicReason text)

def runOne (s : CheckSettings) (host : Host) (id : CheckId) : CheckResult :=
  resultOf s id ((Check.run s id).run host)

/-- Lets a check run. Each of its questions is put down before the host replies. -/
def record (host : Host) : Probe CheckResult → List Event → Outcome CheckResult × List Event
  | .done result, events => (.finished result, events)
  | .ask q next, events =>
    match host q with
    | .answer a => record host (next (.ok a)) (events ++ [.asked q])
    | .error e => record host (next (.error e)) (events ++ [.asked q])
    | .panic text => (.panicked text, events ++ [.asked q])

/-- The run after the turn of one more check, which is announced before it asks and told once it
has ended. -/
def turn (s : CheckSettings) (host : Host) (run : Checked) (place : CheckId × Nat) : Checked :=
  let (id, index) := place
  let announced := run.events ++ [.told (.starting id index CheckId.all.length)]
  let (outcome, events) := record host (Check.run s id) announced
  let result := resultOf s id outcome
  { results := run.results ++ [result]
    events := events ++ [.told (.finished result)] }

def runSequential (s : CheckSettings) (host : Host) : Checked :=
  CheckId.all.zipIdx.foldl (turn s host) {}

end Checklist
end Readiness
