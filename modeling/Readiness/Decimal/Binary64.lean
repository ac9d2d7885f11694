/-!
Binary floating point numbers of 64 bits, as exact values: rounding of a quotient to the nearest
one, and the shortest decimal that reads back.
-/

namespace Readiness.Decimal

/-- A binary64 number. A finite one is `mantissa * 2 ^ exponent` with a sign; the mantissa is below
`2 ^ 53` and the exponent at least `-1074`. -/
inductive Binary64
  | nan
  | infinite (negative : Bool)
  | finite (negative : Bool) (mantissa : Nat) (exponent : Int)
  deriving DecidableEq, Repr, Inhabited

namespace Binary64

def minExponent : Int := -1074
def maxExponent : Int := 971

def zero (negative : Bool) : Binary64 := .finite negative 0 minExponent

def isFinite : Binary64 → Bool
  | .finite .. => true
  | _ => false

/-- Equality of values: the two zeros are one value, and so are all NaNs. -/
def sameValue : Binary64 → Binary64 → Bool
  | .nan, .nan => true
  | .finite _ 0 _, .finite _ 0 _ => true
  | a, b => a == b

def negate : Binary64 → Binary64
  | .nan => .nan
  | .infinite negative => .infinite !negative
  | .finite negative m e => .finite (!negative) m e

/-- A quotient rounded to a whole number, a half going to the even neighbour. -/
def roundDiv (num den : Nat) : Nat :=
  let q := num / den
  let r := num % den
  if den < 2 * r then q + 1
  else if 2 * r = den then q + q % 2
  else q

def scaled (num den : Nat) (exponent : Int) : Nat × Nat :=
  if exponent ≤ 0 then (num * Nat.pow 2 exponent.natAbs, den)
  else (num, den * Nat.pow 2 exponent.natAbs)

/-- The binary64 number nearest to `num / den`, a tie going to the even mantissa. -/
def ofQuotient (negative : Bool) (num den : Nat) : Binary64 :=
  if num = 0 then zero negative
  else
    let estimate : Int := (Nat.log2 num : Int) - (Nat.log2 den : Int) - 52
    let reaches (e : Int) : Bool :=
      let (n, d) := scaled num den e
      d * Nat.pow 2 52 ≤ n
    let fitting := if reaches estimate then estimate else estimate - 1
    let exponent := max fitting minExponent
    let (n, d) := scaled num den exponent
    let mantissa := roundDiv n d
    let (mantissa, exponent) :=
      if mantissa = Nat.pow 2 53 then (Nat.pow 2 52, exponent + 1) else (mantissa, exponent)
    if maxExponent < exponent then .infinite negative
    else if mantissa = 0 then zero negative
    else .finite negative mantissa exponent

/-- The number nearest to `digits * 10 ^ exponent`. Exponents far out are cut off before the power
is taken: beyond them every number is infinite, or zero. -/
def ofDecimal (negative : Bool) (digits : Nat) (exponent : Int) : Binary64 :=
  if digits = 0 then zero negative
  else
    let magnitude := exponent + (Nat.toDigits 10 digits).length
    if magnitude < -400 then zero negative
    else if 400 < magnitude then .infinite negative
    else if 0 ≤ exponent then ofQuotient negative (digits * Nat.pow 10 exponent.natAbs) 1
    else ofQuotient negative digits (Nat.pow 10 exponent.natAbs)

/-- The numerator and the denominator of a magnitude `mantissa * 2 ^ exponent`. -/
def quotient (mantissa : Nat) (exponent : Int) : Nat × Nat :=
  if 0 ≤ exponent then (mantissa * Nat.pow 2 exponent.natAbs, 1)
  else (mantissa, Nat.pow 2 exponent.natAbs)

def times : Binary64 → Binary64 → Binary64
  | .finite a m e, .finite b n f =>
    let (num, den) := quotient (m * n) (e + f)
    ofQuotient (a != b) num den
  | .infinite a, .finite b _ _ => .infinite (a != b)
  | .finite a _ _, .infinite b => .infinite (a != b)
  | .infinite a, .infinite b => .infinite (a != b)
  | _, _ => .nan

def dividedBy : Binary64 → Binary64 → Binary64
  | .finite a m e, .finite b n f =>
    if n = 0 then .nan
    else
      let (num, den) := quotient m e
      let (num', den') := quotient n f
      ofQuotient (a != b) (num * den') (den * num')
  | _, _ => .nan

/-- Decimal digits `0.d₁d₂… * 10 ^ point`, the first digit not zero. -/
structure Digits where
  digits : List Char
  point : Int
  deriving Repr

/-- Whether a number lies in the interval of those that round to one mantissa; the ends belong to it
when the mantissa is even. -/
def inInterval (even : Bool) (low high value : Nat) : Bool :=
  if even then low ≤ value && value ≤ high else low < value && value < high

/-- The best candidate with a unit of `10 ^ unit`, if one lies in the interval: the neighbours of
the value on that grid are tried, the nearer first, and the upper one first when both are as near. -/
def candidate? (mantissa : Nat) (exponent : Int) (unit : Int) : Option Nat :=
  let (num, den) := quotient mantissa exponent
  -- value, ends and grid are scaled to whole numbers by one common factor
  let scale := if unit < 0 then Nat.pow 10 unit.natAbs else 1
  let grid := 4 * den * (if 0 ≤ unit then Nat.pow 10 unit.natAbs else 1)
  let value := 4 * num * scale
  let ulp := (quotient 1 exponent).1 * (den / (quotient 1 exponent).2)
  let half := 2 * ulp * scale
  let lowHalf := if mantissa = Nat.pow 2 52 ∧ minExponent < exponent then ulp * scale else half
  let low := value - lowHalf
  let high := value + half
  let even := mantissa % 2 == 0
  let down := value / grid
  let up := down + 1
  let fits (n : Nat) : Bool := 0 < n && inInterval even low high (n * grid)
  let downFirst := value - down * grid < up * grid - value
  if downFirst then
    if fits down then some down else if fits up then some up else none
  else
    if fits up then some up else if fits down then some down else none

/-- Tries ever finer units. -/
def shortestFrom (mantissa : Nat) (exponent : Int) : Nat → Int → Option (Nat × Int)
  | 0, _ => none
  | fuel + 1, unit =>
    match candidate? mantissa exponent unit with
    | some n => some (n, unit)
    | none => shortestFrom mantissa exponent fuel (unit - 1)

/-- The fewest digits that read back as the number, of those the nearest. -/
def shortest (mantissa : Nat) (exponent : Int) : Digits :=
  if mantissa = 0 then ⟨['0'], 1⟩
  else
    let (num, den) := quotient mantissa exponent
    let top : Int :=
      if den ≤ num then ((Nat.toDigits 10 (num / den)).length : Int)
      else 1 - ((Nat.toDigits 10 (den / num)).length : Int)
    match shortestFrom mantissa exponent 24 (top + 1) with
    | some (n, unit) =>
      let digits := Nat.toDigits 10 n
      let trimmed := (digits.reverse.dropWhile (· == '0')).reverse
      ⟨trimmed, unit + digits.length⟩
    | none => ⟨['0'], 1⟩

end Binary64

/-- How numbers are written: from which decimal points on, and up to which, digits stand in place;
whether a whole number gets `.0`; and the mark between digits and a positive exponent. -/
structure NumberStyle where
  positionalFrom : Int
  positionalUpTo : Int
  pointZero : Bool
  positiveMark : String
  deriving Repr

namespace Binary64

def positional (pointZero : Bool) (d : Digits) : String :=
  let count : Int := d.digits.length
  if d.point ≤ 0 then
    "0." ++ String.ofList (List.replicate d.point.natAbs '0' ++ d.digits)
  else if count ≤ d.point then
    String.ofList (d.digits ++ List.replicate (d.point - count).toNat '0') ++
      (if pointZero then ".0" else "")
  else
    String.ofList (d.digits.take d.point.toNat) ++ "." ++
      String.ofList (d.digits.drop d.point.toNat)

def scientific (positiveMark : String) (d : Digits) : String :=
  let power := d.point - 1
  let fraction := d.digits.drop 1
  String.ofList (d.digits.take 1) ++
    (if fraction.isEmpty then "" else "." ++ String.ofList fraction) ++
    (if power < 0 then "e-" else positiveMark) ++ toString power.natAbs

def text (style : NumberStyle) : Binary64 → String
  | .nan => "NaN"
  | .infinite negative => if negative then "-inf" else "inf"
  | .finite negative m e =>
    let digits := shortest m e
    (if negative then "-" else "") ++
      (if m = 0 ∨ (style.positionalFrom ≤ digits.point ∧ digits.point ≤ style.positionalUpTo)
        then positional style.pointZero digits
        else scientific style.positiveMark digits)

end Binary64
end Readiness.Decimal
