/-!
Points in time as seconds since 1970, and their RFC 3339 text in universal time.
-/

namespace Readiness.Time

/-- A point in universal time. From 10⁹ nanoseconds on, the point lies in the leap second that
follows `secs`. -/
structure Stamp where
  secs : Int
  nanos : Nat
  deriving DecidableEq, Repr, Inhabited

structure Day where
  year : Int
  month : Nat
  day : Nat
  deriving DecidableEq, Repr

namespace Day

/-- The day that lies `days` days after the first of January 1970. Years are counted from March,
so that the leap day ends its year; 146097 days make a cycle of 400 years. -/
def ofEpoch (days : Int) : Day :=
  let shifted := days + 719468
  let era := shifted.fdiv 146097
  let dayOfEra := (shifted - era * 146097).toNat
  let yearOfEra := (dayOfEra - dayOfEra / 1460 + dayOfEra / 36524 - dayOfEra / 146096) / 365
  let dayOfYear := dayOfEra - (365 * yearOfEra + yearOfEra / 4 - yearOfEra / 100)
  let marchMonth := (5 * dayOfYear + 2) / 153
  let day := dayOfYear - (153 * marchMonth + 2) / 5 + 1
  let month := if marchMonth < 10 then marchMonth + 3 else marchMonth - 9
  let year := (yearOfEra : Int) + era * 400 + (if month ≤ 2 then 1 else 0)
  ⟨year, month, day⟩

end Day

/-- A number with at least `width` digits, filled up with zeros. -/
def padded (width n : Nat) : String :=
  let digits := Nat.toDigits 10 n
  String.ofList (List.replicate (width - digits.length) '0' ++ digits)

/-- Four digits for the years 0 to 9999, and a sign before any other year. -/
def yearText (year : Int) : String :=
  if 0 ≤ year ∧ year ≤ 9999 then padded 4 year.toNat
  else if year < 0 then "-" ++ padded 4 year.natAbs
  else "+" ++ padded 4 year.natAbs

/-- Three, six or nine decimal places: the fewest of these that lose nothing, and none for zero. -/
def fractionText (nanos : Nat) : String :=
  if nanos = 0 then ""
  else if nanos % 1000000 = 0 then "." ++ padded 3 (nanos / 1000000)
  else if nanos % 1000 = 0 then "." ++ padded 6 (nanos / 1000)
  else "." ++ padded 9 nanos

namespace Stamp

/-- The RFC 3339 text, with the offset of universal time written as `+00:00`. -/
def rfc3339 (t : Stamp) : String :=
  let day := Day.ofEpoch (t.secs.fdiv 86400)
  let second := (t.secs.fmod 86400).toNat
  let leap := if 1000000000 ≤ t.nanos then 1 else 0
  yearText day.year ++ "-" ++ padded 2 day.month ++ "-" ++ padded 2 day.day ++ "T" ++
    padded 2 (second / 3600) ++ ":" ++ padded 2 (second / 60 % 60) ++ ":" ++
    padded 2 (second % 60 + leap) ++ fractionText (t.nanos - leap * 1000000000) ++ "+00:00"

end Stamp
end Readiness.Time
