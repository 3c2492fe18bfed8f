/-!
# Binary floating point

The double-precision numbers of IEEE 754, held by their bits, so that two are equal exactly when
their bits are. `Binary64.ofRatio` rounds a ratio of natural numbers to the nearest double, ties to
even, and every reader of numbers is built on it. Arithmetic is exact arithmetic on naturals;
nothing here depends on the machine's own floating point.
-/
namespace Mutagenesis

/-- A double-precision number. -/
structure Binary64 where
  bits : UInt64
  deriving DecidableEq, Repr

namespace Binary64

/-- What the sign bit counts. -/
def signUnit : Nat := 0x8000000000000000

/-- What the lowest bit of the exponent counts. -/
def exponentUnit : Nat := 0x10000000000000

/-- The sign bit. -/
def isNegative (x : Binary64) : Bool := decide (signUnit ≤ x.bits.toNat)

/-- The eleven bits of the exponent. -/
def exponentBits (x : Binary64) : Nat := x.bits.toNat / exponentUnit % 2048

/-- The fifty-two bits of the fraction. -/
def fractionBits (x : Binary64) : Nat := x.bits.toNat % exponentUnit

def isNaN (x : Binary64) : Bool := x.exponentBits = 2047 && x.fractionBits ≠ 0

def isInfinite (x : Binary64) : Bool := x.exponentBits = 2047 && x.fractionBits = 0

def isFinite (x : Binary64) : Bool := x.exponentBits ≠ 2047

/-- The magnitude of a finite number is `significand · 2 ^ exponent`. -/
def significand (x : Binary64) : Nat :=
  if x.exponentBits = 0 then x.fractionBits else exponentUnit + x.fractionBits

def exponent (x : Binary64) : Int := (max x.exponentBits 1 : Nat) - 1075

def isZero (x : Binary64) : Bool := x.exponentBits = 0 && x.fractionBits = 0

/-- A number from its sign and the other bits. -/
def ofParts (negative : Bool) (magnitude : Nat) : Binary64 where
  bits := UInt64.ofNat (magnitude + if negative then signUnit else 0)

def zero : Binary64 := ofParts false 0

def infinity (negative : Bool) : Binary64 := ofParts negative (2047 * exponentUnit)

def nan : Binary64 := ofParts false (2047 * exponentUnit + exponentUnit / 2)

/-- The quotient rounded to the nearest natural number, a half to the even one. -/
def roundDiv (num den : Nat) : Nat :=
  let q := num / den
  let twice := 2 * (num % den)
  if twice < den then q
  else if den < twice then q + 1
  else q + q % 2

/-- `num · 2 ^ shift / den`, rounded. -/
def roundShifted (num den : Nat) (shift : Int) : Nat :=
  if 0 ≤ shift then roundDiv (num * Nat.pow 2 shift.toNat) den
  else roundDiv num (den * Nat.pow 2 (-shift).toNat)

/-- The double nearest to `num / den`, for a positive `den`; beyond the largest it is infinite. -/
def ofRatio (negative : Bool) (num den : Nat) : Binary64 :=
  if num = 0 then ofParts negative 0
  else
    let estimate : Int := (Nat.log2 num : Int) - Nat.log2 den
    let scale : Int := max (estimate - 53) (-1074)
    let first := roundShifted num den (-scale)
    let (scale, units) :=
      if 2 * exponentUnit < first then (scale + 1, roundShifted num den (-(scale + 1))) else (scale, first)
    let (scale, units) := if units = 2 * exponentUnit then (scale + 1, exponentUnit) else (scale, units)
    if units < exponentUnit then ofParts negative units
    else
      let biased := scale + 1075
      if 2047 ≤ biased then infinity negative
      else ofParts negative (biased.toNat * exponentUnit + (units - exponentUnit))

def ofNat (n : Nat) : Binary64 := ofRatio false n 1

/-- The magnitude as a ratio of natural numbers. -/
def ratio (x : Binary64) : Nat × Nat :=
  if 0 ≤ x.exponent then (x.significand * Nat.pow 2 x.exponent.toNat, 1)
  else (x.significand, Nat.pow 2 (-x.exponent).toNat)

/-- The product, rounded. -/
def mul (x y : Binary64) : Binary64 :=
  let negative := x.isNegative != y.isNegative
  if x.isNaN || y.isNaN then nan
  else if x.isInfinite || y.isInfinite then
    if x.isZero || y.isZero then nan else infinity negative
  else
    let (a, b) := x.ratio
    let (c, d) := y.ratio
    ofRatio negative (a * c) (b * d)

/-- The quotient by a finite number other than zero, rounded. -/
def div (x y : Binary64) : Binary64 :=
  let negative := x.isNegative != y.isNegative
  if x.isNaN || y.isNaN then nan
  else if x.isInfinite then infinity negative
  else
    let (a, b) := x.ratio
    let (c, d) := y.ratio
    ofRatio negative (a * d) (b * c)

/-- The number with its sign turned. -/
def neg (x : Binary64) : Binary64 :=
  ofParts (!x.isNegative) (x.bits.toNat % signUnit)

/-- Whether a number that is not a NaN lies between zero and the bound, both included; either
zero does. -/
def inUnitRange (bound : Nat) (x : Binary64) : Bool :=
  if !x.isFinite then false
  else x.isZero || (!x.isNegative && decide (x.ratio.1 ≤ bound * x.ratio.2))

end Binary64

end Mutagenesis
