import Readiness.Host.Question

/-!
Computations that ask a host: they end with a result, or ask a question and go on with its answer
or its error. A panic ends a computation where it stands.
-/

namespace Readiness

inductive Probe (α : Type) : Type
  | done (a : α)
  | ask (q : Question) (next : Except ProbeError q.Answer → Probe α)

inductive Outcome (α : Type)
  | finished (a : α)
  | panicked (text : Option String)
  deriving Repr

namespace Probe

variable {α β : Type}

protected def bind (p : Probe α) (f : α → Probe β) : Probe β :=
  match p with
  | done a => f a
  | ask q next => ask q fun reply => (next reply).bind f

instance : Monad Probe where
  pure := done
  bind := Probe.bind

def query (q : Question) : Probe (Except ProbeError q.Answer) := ask q done

def run (host : Host) : Probe α → Outcome α
  | done a => .finished a
  | ask q next =>
    match host q with
    | .answer a => (next (.ok a)).run host
    | .error e => (next (.error e)).run host
    | .panic text => .panicked text

def asked (host : Host) : Probe α → List Question
  | done _ => []
  | ask q next =>
    q :: match host q with
      | .answer a => (next (.ok a)).asked host
      | .error e => (next (.error e)).asked host
      | .panic _ => []

end Probe
end Readiness
