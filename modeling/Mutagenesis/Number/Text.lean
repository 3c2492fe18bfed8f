import Mutagenesis.Number.Shortest

/-!
# Written numbers

The three written forms of a double. Data files use the scientific form outside of the range from
`1e-5` to below `1e16` and always show a fraction or an exponent; messages never use an exponent
and show no fraction of zero; reports show one decimal place.
-/
namespace Mutagenesis.Binary64

open Text (numeral)

/-- Digits with the point after the given number of them, zeros filled in on either side. -/
def positional (digits : List Char) (point : Int) (fraction : List Char) : List Char :=
  if point ≤ 0 then ['0', '.'] ++ List.replicate (-point).toNat '0' ++ digits
  else
    let n := point.toNat
    if digits.length ≤ n then
      digits ++ List.replicate (n - digits.length) '0' ++ fraction
    else digits.take n ++ '.' :: digits.drop n

/-- A number as data files write it. Of a number that is not finite there is no written form, and
`null` stands for it. -/
def dataText (x : Binary64) : List Char :=
  let sign := if x.isNegative then ['-'] else []
  if !x.isFinite then "null".toList
  else if x.isZero then sign ++ "0.0".toList
  else
    let d := x.shortest .toEven
    let point := d.pointPosition
    if -5 < point ∧ point ≤ 16 then sign ++ positional d.digits point ".0".toList
    else
      let shown := match d.digits with
        | [] => []
        | [digit] => [digit]
        | digit :: rest => digit :: '.' :: rest
      let e := point - 1
      sign ++ shown ++ ['e', if e < 0 then '-' else '+'] ++ numeral e.natAbs

/-- A number as messages show it. -/
def messageText (x : Binary64) : List Char :=
  if x.isNaN then "NaN".toList
  else
    let sign := if x.isNegative then ['-'] else []
    if x.isInfinite then sign ++ "inf".toList
    else if x.isZero then sign ++ ['0']
    else
      let d := x.shortest .upward
      sign ++ positional d.digits d.pointPosition []

/-- A number as reports show it: rounded to one decimal place, a half to the even neighbour. -/
def reportText (x : Binary64) : List Char :=
  if x.isNaN then "NaN".toList
  else
    let sign := if x.isNegative then ['-'] else []
    if x.isInfinite then sign ++ "inf".toList
    else
      let (num, den) := x.ratio
      let tenths := roundDiv (10 * num) den
      sign ++ numeral (tenths / 10) ++ '.' :: numeral (tenths % 10)

end Mutagenesis.Binary64
