import Mutagenesis.Syntax.Lexemes
import Mutagenesis.Text.Identifier

/-!
# Tokens of Python
-/
namespace Mutagenesis.Syntax.Python

open Text (isNameStart isNamePart isDigit hexValue?)

/-- A word: a name or a keyword. -/
def word : Measure
  | [] => none
  | c :: cs => if isNameStart c then some (1 + (cs.takeWhile isNamePart).length) else none

/-- The words that are no names. -/
def reserved : List String :=
  ["False", "None", "True", "and", "as", "assert", "break", "class", "continue", "def", "del",
    "elif", "else", "except", "finally", "for", "from", "global", "if", "import", "in", "is",
    "lambda", "nonlocal", "not", "or", "pass", "raise", "return", "try", "while", "with", "yield"]

/-- A name: a word that is not reserved. -/
def name : Measure := fun cs =>
  (word cs).bind fun n =>
    if reserved.contains (String.ofList (cs.take n)) then none else some n

/-- Exactly this word. -/
def exactWord (text : String) : Measure := fun cs =>
  (word cs).bind fun n => if cs.take n = text.toList then some n else none

/-- An exponent with its digits. -/
def exponent : List Char → Nat
  | e :: rest =>
      if e = 'e' || e = 'E' then
        let sign := match rest with
          | '+' :: _ | '-' :: _ => 1
          | _ => 0
        let n := Measure.digits isDigit (rest.drop sign)
        if 0 < n then 1 + sign + n else 0
      else 0
  | [] => 0

/-- The suffix of a long or imaginary number. -/
def suffix : List Char → Nat
  | c :: _ => if "lLjJ".toList.contains c then 1 else 0
  | [] => 0

/-- A numeral in any base, with a fraction, exponent and suffix in base ten. -/
def numeral : Measure := fun cs =>
  let based (p : Char → Bool) (rest : List Char) : Option Nat :=
    let n := Measure.digits p rest
    if n = 0 then none else some (2 + n)
  let ended (n : Nat) : Nat := n + suffix (cs.drop n)
  match cs with
  | '0' :: 'x' :: rest | '0' :: 'X' :: rest => based (fun c => (hexValue? c).isSome) rest
  | '0' :: 'b' :: rest | '0' :: 'B' :: rest => based (fun c => c = '0' || c = '1') rest
  | '0' :: 'o' :: rest | '0' :: 'O' :: rest => based (fun c => '0' ≤ c && c ≤ '7') rest
  | '.' :: d :: rest =>
      if isDigit d then
        let n := Measure.digits isDigit (d :: rest)
        some (ended (1 + n + exponent ((d :: rest).drop n)))
      else none
  | d :: _ =>
      if !isDigit d then none
      else
        let whole := Measure.digits isDigit cs
        match cs.drop whole with
        | '.' :: rest =>
            let fraction := match rest with
              | f :: _ => if isDigit f then Measure.digits isDigit rest else 0
              | [] => 0
            some (ended (whole + 1 + fraction + exponent (rest.drop fraction)))
        | rest => some (ended (whole + exponent rest))
  | [] => none

/-- The letters before a quote. -/
def prefixLength (cs : List Char) : Nat :=
  (cs.takeWhile fun c => "rRbBuUfFtT".toList.contains c).length

/-- Whether the letters make a text with replacement fields. -/
def isFormatted (letters : List Char) : Bool := letters.any fun c => "fFtT".toList.contains c

/-- The rest of a text in three quotes. -/
def tripleRest (quote : Char) : Measure
  | [] => none
  | ['\\'] => none
  | '\\' :: _ :: cs => (tripleRest quote cs).map (· + 2)
  | c :: cs =>
      if c = quote && cs.take 2 = [quote, quote] then some 3
      else (tripleRest quote cs).map (· + 1)

/-- A text without replacement fields, its letters included. -/
def plainText : Measure := fun cs =>
  let n := prefixLength cs
  if isFormatted (cs.take n) then none
  else
    match cs.drop n with
    | q :: rest =>
        if q = '\'' || q = '\x22' then
          if rest.take 2 = [q, q] then (tripleRest q (rest.drop 2)).map (n + 3 + ·)
          else (Measure.quotedRest q false rest).map (n + 1 + ·)
        else none
    | [] => none

/-- The letters and quotes that open a text with replacement fields. -/
def formattedStart (quotes : String) : Measure := fun cs =>
  let n := prefixLength cs
  if isFormatted (cs.take n) && quotes.toList.isPrefixOf (cs.drop n) then some (n + quotes.length)
  else none

/-- The operators between operands that bind closer than comparisons. -/
def arithmeticMarks : List String :=
  ["+", "-", "*", "@", "/", "%", "//", "**", "|", "&", "^", "<<", ">>"]

/-- The operators that compare. -/
def comparisonMarks : List String := ["<", "<=", "==", "!=", ">=", ">", "<>"]

/-- The marks that assign with an operation. -/
def augmentedMarks : List String :=
  ["+=", "-=", "*=", "@=", "/=", "%=", "//=", "**=", "|=", "&=", "^=", "<<=", ">>="]

/-- The marks that a longest match tells apart. -/
def marks : List (List Char) :=
  (arithmeticMarks ++ comparisonMarks ++ augmentedMarks ++ ["=", ":=", "->", ":"]).map
    String.toList

/-- The longest mark here, if it is one of those given. -/
def markAmong (chosen : List String) : Measure := fun cs =>
  (Measure.longest marks cs).bind fun n =>
    if chosen.contains (String.ofList (cs.take n)) then some n else none

end Mutagenesis.Syntax.Python
