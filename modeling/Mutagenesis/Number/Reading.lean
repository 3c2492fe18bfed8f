import Mutagenesis.Number.Binary64
import Mutagenesis.Text.Decimal

/-!
# Reading numbers

Two readers. `Binary64.ofText?` reads an argument of the command line to the nearest double.
`Binary64.ofScaled?` is the reader of data files: it takes at most sixty-four bits of the digits and
scales them by a power of ten in floating point, which is not always the nearest double.
-/
namespace Mutagenesis.Binary64

open Text (digitValue? isDigit digitsValue)

/-- `significand · 10 ^ exponent` to the nearest double. Exponents that leave the range whatever
the digits are bring infinity or zero. -/
def ofDecimal (negative : Bool) (significand : Nat) (exponent : Int) (nrDigits : Nat) :
    Binary64 :=
  if significand = 0 then ofParts negative 0
  else if 400 < exponent then infinity negative
  else if exponent < -(400 + nrDigits : Nat) then ofParts negative 0
  else if 0 ≤ exponent then ofRatio negative (significand * Nat.pow 10 exponent.toNat) 1
  else ofRatio negative significand (Nat.pow 10 (-exponent).toNat)

/-- The exponent part of a number: nothing, or a letter, an optional sign and digits. -/
def exponentText? : List Char → Option Int
  | [] => some 0
  | e :: rest =>
      if e = 'e' || e = 'E' then
        let (negative, digits) := match rest with
          | '-' :: ds => (true, ds)
          | '+' :: ds => (false, ds)
          | ds => (false, ds)
        if digits.isEmpty || digits.any (fun c => !isDigit c) then none
        else
          let n : Int := digitsValue digits
          some (if negative then -n else n)
      else none

/-- A number in decimal, with an optional sign, fraction and exponent, to the nearest double.
Infinity and the NaN are read by name in any case. -/
def ofText? (cs : List Char) : Option Binary64 :=
  let (negative, rest) := match cs with
    | '-' :: rest => (true, rest)
    | '+' :: rest => (false, rest)
    | rest => (false, rest)
  let word := String.ofList (rest.map Char.toLower)
  if word = "inf" || word = "infinity" then some (infinity negative)
  else if word = "nan" then some (if negative then nan.neg else nan)
  else
    let whole := rest.takeWhile isDigit
    let (fraction, tail) := match rest.dropWhile isDigit with
      | '.' :: more => (more.takeWhile isDigit, more.dropWhile isDigit)
      | more => ([], more)
    if whole.isEmpty && fraction.isEmpty then none
    else
      (exponentText? tail).map fun e =>
        ofDecimal negative (digitsValue (whole ++ fraction)) (e - fraction.length)
          (whole.length + fraction.length)

/-- A number of at most sixty-four bits times a power of ten. Powers beyond 308 are applied in
steps of 308, and the first number bounds the steps. An overflow has no result. -/
def scale? : Nat → Binary64 → Int → Option Binary64
  | 0, x, _ => some x
  | steps + 1, x, exponent =>
      if exponent.natAbs ≤ 308 then
        let power := ofNat (Nat.pow 10 exponent.natAbs)
        if 0 ≤ exponent then
          let y := mul x power
          if y.isInfinite then none else some y
        else some (div x power)
      else if x.isZero then some x
      else if 0 ≤ exponent then none
      else scale? steps (div x (ofNat (Nat.pow 10 308))) (exponent + 308)

/-- `significand · 10 ^ exponent` as data files read it. -/
def ofScaled? (negative : Bool) (significand : Nat) (exponent : Int) : Option Binary64 :=
  (scale? 8 (ofNat significand) exponent).map fun x =>
    ofParts negative (x.bits.toNat % signUnit)

end Mutagenesis.Binary64
