import Readiness.Decimal.Binary64
import Readiness.Json.Value
import Readiness.Text.Digit

/-!
The numbers that literals stand for. Whole numbers of 64 bits are exact. Any other literal is a
float: as many of its digits as fit 64 bits, multiplied or divided by a power of ten that is
itself rounded.
-/

namespace Readiness.Json

open Decimal (Binary64)

inductive Number
  | whole (n : Nat)
  | negative (n : Int)
  | float (x : Binary64)
  deriving Repr

namespace Number

def maxWhole : Nat := UInt64.size - 1

/-- Takes digits as long as the number fits 64 bits; answers with the digits that are left. -/
def absorb (value : Nat) : List Char → Nat × List Char
  | [] => (value, [])
  | c :: rest =>
    let next := value * 10 + (c.toNat - '0'.toNat)
    if next ≤ maxWhole then absorb next rest else (value, c :: rest)

/-- The power of ten nearest to `10 ^ exponent`. -/
def power (exponent : Nat) : Binary64 := .ofDecimal false 1 exponent

def maxPower : Nat := 308

/-- Divides by powers of ten until the exponent is used up. -/
def shrink : Nat → Binary64 → Nat → Binary64
  | 0, x, _ => x
  | fuel + 1, x, exponent =>
    if exponent ≤ maxPower then x.dividedBy (power exponent)
    else shrink fuel (x.dividedBy (power maxPower)) (exponent - maxPower)

/-- A significand times a power of ten, if that is finite. Below a thousandth power nothing is
left, so that a few divisions are enough. -/
def scale? (significand : Nat) (exponent : Int) : Option Binary64 :=
  let x := Binary64.ofQuotient false significand 1
  if significand = 0 then some x
  else if exponent < 0 then some (shrink 4 x exponent.natAbs)
  else if maxPower < exponent then none
  else
    let y := x.times (power exponent.toNat)
    if y.isFinite then some y else none

def float? (l : Literal) : Option Binary64 :=
  let (significand, dropped) := absorb 0 l.whole
  let (significand, ignored) := absorb significand l.fraction
  let taken : Int := (l.fraction.length - ignored.length : Nat)
  let exponent := (dropped.length : Int) - taken + l.exponent.getD 0
  (scale? significand exponent).map fun x => if l.negative then x.negate else x

def ofLiteral? (l : Literal) : Option Number :=
  let n := (Text.readNat? 10 l.whole).getD 0
  if l.isWhole && n ≤ maxWhole && !l.negative then some (.whole n)
  else if l.isWhole && l.negative && 0 < n && n ≤ UInt64.size / 2 then some (.negative (-(n : Int)))
  else (float? l).map .float

end Number
end Readiness.Json
