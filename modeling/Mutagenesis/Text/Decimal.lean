/-!
# Decimal numerals

Natural numbers in decimal digits and in other bases, and back. Reading takes the digits `0`
to `9` of ASCII alone and sets no limit; the callers compare the value with their own.
-/
namespace Mutagenesis.Text

/-- The digit for a value below sixteen, in lower case. -/
def digitChar (d : Nat) : Char :=
  if d < 10 then Char.ofNat (d + 48) else Char.ofNat (d + 87)

/-- The digits of `n` in the given base, most significant first, for a base of at least two. -/
def digitsIn (base : Nat) (n : Nat) : List Char :=
  if _h : base < 2 ∨ n < base then [digitChar n]
  else digitsIn base (n / base) ++ [digitChar (n % base)]
  termination_by n
  decreasing_by exact Nat.div_lt_self (by omega) (by omega)

/-- The decimal numeral of `n`, without leading zeros. -/
def numeral (n : Nat) : List Char := digitsIn 10 n

/-- The value of a decimal digit. -/
def digitValue? (c : Char) : Option Nat :=
  if '0' ≤ c ∧ c ≤ '9' then some (c.toNat - 48) else none

/-- Whether a character is one of the ten decimal digits of ASCII. -/
def isDigit (c : Char) : Bool := (digitValue? c).isSome

/-- The value of a hexadecimal digit of either case. -/
def hexValue? (c : Char) : Option Nat :=
  if '0' ≤ c ∧ c ≤ '9' then some (c.toNat - 48)
  else if 'a' ≤ c ∧ c ≤ 'f' then some (c.toNat - 87)
  else if 'A' ≤ c ∧ c ≤ 'F' then some (c.toNat - 55)
  else none

/-- The number that the digits continue, read from the left. -/
def valueFrom (seen : Nat) : List Char → Option Nat
  | [] => some seen
  | c :: cs => (digitValue? c).bind fun d => valueFrom (10 * seen + d) cs

/-- The value of a non-empty run of decimal digits, leading zeros allowed. -/
def value? : List Char → Option Nat
  | [] => none
  | c :: cs => valueFrom 0 (c :: cs)

/-- The value of the digits, characters that are none being passed over. -/
def digitsValue (cs : List Char) : Nat :=
  cs.foldl (fun seen c => 10 * seen + (digitValue? c).getD 0) 0

/-- A number written with an optional plus sign, no larger than `most`. -/
def unsigned? (most : Nat) (cs : List Char) : Option Nat :=
  let digits := match cs with
    | '+' :: rest => rest
    | _ => cs
  (value? digits).bind fun n => if n ≤ most then some n else none

end Mutagenesis.Text
