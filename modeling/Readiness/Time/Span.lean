/-!
Lengths of time to the nanosecond, and the text in which messages show them.
-/

namespace Readiness.Time

/-- A length of time: whole seconds, and the nanoseconds beyond them. -/
structure Span where
  secs : Nat
  nanos : Nat
  deriving DecidableEq, Repr, Inhabited

namespace Span

def ofSecs (secs : Nat) : Span := ⟨secs, 0⟩

def toNanos (s : Span) : Nat := s.secs * 1000000000 + s.nanos

/-- The digits of a fraction with `places` decimal places, without the zeros at its end. -/
def fractionDigits (places fraction : Nat) : List Char :=
  let digits := (Nat.toDigits 10 (Nat.pow 10 places + fraction)).drop 1
  (digits.reverse.dropWhile (· = '0')).reverse

/-- A whole part, and after a point the fraction if it is not zero. -/
def decimal (whole places fraction : Nat) : String :=
  if fraction = 0 then toString whole
  else toString whole ++ "." ++ String.ofList (fractionDigits places fraction)

/-- The span in the largest of s, ms, µs and ns in which its whole part is not zero. -/
def text (s : Span) : String :=
  if 0 < s.secs then decimal s.secs 9 s.nanos ++ "s"
  else if 1000000 ≤ s.nanos then decimal (s.nanos / 1000000) 6 (s.nanos % 1000000) ++ "ms"
  else if 1000 ≤ s.nanos then decimal (s.nanos / 1000) 3 (s.nanos % 1000) ++ "µs"
  else toString s.nanos ++ "ns"

end Span
end Readiness.Time
