import Mutagenesis.Number.Binary64
import Mutagenesis.Text.Decimal

/-!
# Shortest decimals

The decimal of fewest digits that reads back as a given double, and of those the nearest to it.
A double `m · 2^q` is the nearest one to every real between the midpoints to its neighbours, and
to the midpoints themselves when `m` is even; a decimal reads back as the double exactly when it
lies there. For one digit, then two, and so on, the two multiples of a power of ten around the
double are tried, all in exact arithmetic on naturals.
-/
namespace Mutagenesis

/-- The number `coefficient · 10 ^ exponent`. -/
structure Decimal where
  coefficient : Nat
  exponent : Int
  deriving DecidableEq, Repr

namespace Decimal

/-- The digits of the coefficient. -/
def digits (d : Decimal) : List Char := Text.numeral d.coefficient

/-- The number of digits before the decimal point, negative when zeros follow it. -/
def pointPosition (d : Decimal) : Int := d.digits.length + d.exponent

/-- The same number without zeros at the end of its coefficient; the first number bounds how many
are removed. -/
def stripZeros : Nat → Decimal → Decimal
  | 0, d => d
  | n + 1, d =>
      if d.coefficient ≠ 0 ∧ d.coefficient % 10 = 0 then
        stripZeros n ⟨d.coefficient / 10, d.exponent + 1⟩
      else d

end Decimal

/-- What becomes of a value halfway between two decimals of equal length. -/
inductive TieRule where
  | toEven
  | upward
  deriving DecidableEq, Repr

namespace Binary64

/-- The reals that round to a positive double, as numerators over one denominator. -/
structure Interval where
  low : Nat
  value : Nat
  high : Nat
  den : Nat
  closed : Bool

/-- The interval of a finite positive double. -/
def interval (x : Binary64) : Interval :=
  let m := x.significand
  let below := if x.fractionBits = 0 ∧ 1 < x.exponentBits then 1 else 2
  let q := x.exponent - 2
  let (up, den) := if 0 ≤ q then (Nat.pow 2 q.toNat, 1) else (1, Nat.pow 2 (-q).toNat)
  { low := (4 * m - below) * up, value := 4 * m * up, high := (4 * m + 2) * up, den := den
    closed := m % 2 = 0 }

/-- Whether `units · 10 ^ exponent` lies in the interval. -/
def Interval.holds (i : Interval) (units : Nat) (exponent : Int) : Bool :=
  let (point, den) :=
    if 0 ≤ exponent then (units * Nat.pow 10 exponent.toNat * i.den, 1)
    else (units * i.den, Nat.pow 10 (-exponent).toNat)
  if i.closed then decide (i.low * den ≤ point ∧ point ≤ i.high * den)
  else decide (i.low * den < point ∧ point < i.high * den)

/-- The decimal in the interval whose last digit stands at the power of ten, nearest to the
value. -/
def Interval.onGrid? (i : Interval) (tie : TieRule) (exponent : Int) : Option Decimal :=
  let (num, den) :=
    if 0 ≤ exponent then (i.value, i.den * Nat.pow 10 exponent.toNat)
    else (i.value * Nat.pow 10 (-exponent).toNat, i.den)
  let below := num / den
  let above := below + 1
  let twice := 2 * (num % den)
  let upper := den < twice || (twice = den && match tie with
    | .toEven => below % 2 = 1
    | .upward => true)
  match i.holds below exponent && below ≠ 0, i.holds above exponent with
  | true, true => some ⟨if upper then above else below, exponent⟩
  | true, false => some ⟨below, exponent⟩
  | false, true => some ⟨above, exponent⟩
  | false, false => none

/-- An exponent `e` with `10 ^ e` no larger than the value and `10 ^ (e + 2)` larger. -/
def Interval.magnitude (i : Interval) : Int :=
  if i.den ≤ i.value then (Text.numeral (i.value / i.den)).length - 1
  else -((Text.numeral (i.den / i.value)).length : Int)

/-- The shortest decimal of a finite positive double. -/
def shortest (x : Binary64) (tie : TieRule) : Decimal :=
  let i := x.interval
  let top := i.magnitude + 1
  match (List.range 20).findSome? fun n : Nat => i.onGrid? tie (top - n) with
  | some d => d.stripZeros 400
  | none => ⟨0, 0⟩

end Binary64

end Mutagenesis
