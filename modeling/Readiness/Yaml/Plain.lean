import Readiness.Text.Digit
import Readiness.Yaml.Value

/-!
What a plain scalar stands for: null, a boolean, a whole number, a float, or its own text.
-/

namespace Readiness.Yaml.Plain

open Decimal (Binary64)
open Text (readNat?)

def isNullWord (s : String) : Bool :=
  s == "null" || s == "Null" || s == "NULL" || s == "~"

def bool? (s : String) : Option Bool :=
  if s == "true" || s == "True" || s == "TRUE" then some true
  else if s == "false" || s == "False" || s == "FALSE" then some false
  else none

def unsigned : List Char → List Char
  | '+' :: rest => rest
  | '-' :: rest => rest
  | cs => cs

/-- Digits with a needless zero in front are text. -/
def isZeroLed (cs : List Char) : Bool :=
  match unsigned cs with
  | '0' :: d :: rest => (d :: rest).all Char.isDigit
  | _ => false

/-- The magnitude of a whole number without its sign: decimal, or after a mark of its radix. -/
def magnitude? (cs : List Char) : Option Nat :=
  match cs with
  | '0' :: 'x' :: digits => readNat? 16 digits
  | '0' :: 'o' :: digits => readNat? 8 digits
  | '0' :: 'b' :: digits => readNat? 2 digits
  | _ => if isZeroLed cs then none else readNat? 10 cs

/-- What the text of a whole number stands for: a number in range, one that only 128 bits can
hold, which is refused, or none. -/
inductive Whole
  | value (n : Int)
  | refused
  | none

/-- The whole numbers that a value can hold reach from `-2 ^ 63` to `2 ^ 64 - 1`. -/
def whole (cs : List Char) : Whole :=
  match cs with
  | '-' :: rest =>
    match magnitude? rest with
    | some n =>
      if n ≤ UInt64.size / 2 then .value (-(n : Int))
      else if n ≤ Nat.pow 2 127 then .refused
      else .none
    | none => .none
  | _ =>
    let rest := match cs with
      | '+' :: rest => rest
      | _ => cs
    match magnitude? rest with
    | some n =>
      if n < UInt64.size then .value n
      else if n < Nat.pow 2 128 then .refused
      else .none
    | none => .none

/-- The number that digits before a point, digits after it and a power of ten make. -/
def assemble (negative : Bool) (before after : List Char) (exponent : Int) : Binary64 :=
  .ofDecimal negative ((readNat? 10 (before ++ after)).getD 0) (exponent - after.length)

def exponent? : List Char → Option Int
  | [] => some 0
  | c :: rest =>
    if c = 'e' || c = 'E' then
      match rest with
      | '-' :: digits => (readNat? 10 digits).map fun n => -(n : Int)
      | '+' :: digits => (readNat? 10 digits).map Int.ofNat
      | digits => (readNat? 10 digits).map Int.ofNat
    else none

/-- A finite decimal with an optional minus sign, point and exponent. -/
def decimal? (cs : List Char) : Option Binary64 :=
  let (negative, cs) := match cs with
    | '-' :: rest => (true, rest)
    | _ => (false, cs)
  let before := cs.takeWhile Char.isDigit
  let (after, rest) := match cs.dropWhile Char.isDigit with
    | '.' :: rest => (rest.takeWhile Char.isDigit, rest.dropWhile Char.isDigit)
    | rest => ([], rest)
  if before.isEmpty && after.isEmpty then none
  else (exponent? rest).bind fun exponent =>
    let x := assemble negative before after exponent
    if x.isFinite then some x else none

def isInfinityWord (cs : List Char) : Bool :=
  cs == ".inf".toList || cs == ".Inf".toList || cs == ".INF".toList

def isNanWord (s : String) : Bool :=
  s == ".nan" || s == ".NaN" || s == ".NAN"

/-- A float. Decimals past the largest finite number are none. -/
def float? (s : String) : Option Binary64 :=
  if isNanWord s then some .nan
  else match s.toList with
    | '+' :: rest => if isInfinityWord rest then some (.infinite false)
      else match rest with
        | '-' :: _ => none
        | _ => decimal? rest
    | '-' :: rest =>
      if isInfinityWord rest then some (.infinite true) else decimal? ('-' :: rest)
    | cs => if isInfinityWord cs then some (.infinite false) else decimal? cs

/-- The value of a plain scalar, if it is not a whole number out of range. -/
def value? (s : String) : Option Value :=
  if s.isEmpty || isNullWord s then some .null
  else match bool? s with
    | some b => some (.bool b)
    | none =>
      match whole s.toList with
      | .value n => some (.int n)
      | .refused => none
      | .none =>
        if isZeroLed s.toList then some (.string s)
        else match float? s with
          | some x => some (.float x)
          | none => some (.string s)

end Readiness.Yaml.Plain
