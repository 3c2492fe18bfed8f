import Mutagenesis.Syntax.Lexemes
import Mutagenesis.Syntax.Rule
import Mutagenesis.Text.Identifier

/-!
# Tokens of Rust

Words, numerals, texts and characters, lifetimes, and the gaps between tokens, in which block
comments nest and a documentation comment takes the end of its line with it.
-/
namespace Mutagenesis.Syntax.Rust

open Text (isNameStart isNamePart isDigit hexValue?)

/-- A word: a name or a keyword. A raw word, after `r#`, is never a keyword. -/
def word : Measure
  | 'r' :: '#' :: c :: cs =>
      if isNameStart c then some (3 + (cs.takeWhile isNamePart).length) else some 1
  | c :: cs => if isNameStart c then some (1 + (cs.takeWhile isNamePart).length) else none
  | [] => none

/-- A word that is none of those given. -/
def wordExcept (reserved : List String) : Measure := fun cs =>
  (word cs).bind fun n =>
    if reserved.contains (String.ofList (cs.take n)) then none else some n

/-- Exactly this word. -/
def exactWord (text : String) : Measure := fun cs =>
  (word cs).bind fun n => if cs.take n = text.toList then some n else none

/-- The types of numbers, which may follow a numeral. -/
def numberTypes : List (List Char) :=
  ["u8", "i8", "u16", "i16", "u32", "i32", "u64", "i64", "u128", "i128", "isize", "usize", "f32",
    "f64"].map String.toList

/-- A whole number in any base, with its type. -/
def integer : Measure := fun cs =>
  let typed (n : Nat) : Option Nat := some (n + (Measure.longest numberTypes (cs.drop n)).getD 0)
  let based (p : Char → Bool) (rest : List Char) : Option Nat :=
    let n := Measure.digits p rest
    if n = 0 then none else typed (2 + n)
  match cs with
  | '0' :: 'x' :: rest => based (fun c => (hexValue? c).isSome) rest
  | '0' :: 'b' :: rest => based (fun c => c = '0' || c = '1') rest
  | '0' :: 'o' :: rest => based (fun c => '0' ≤ c && c ≤ '7') rest
  | d :: _ => if isDigit d then typed (Measure.digits isDigit cs) else none
  | [] => none

/-- The exponent of a numeral: a letter, perhaps a sign, and digits. -/
def exponent (cs : List Char) : Nat :=
  match cs with
  | e :: rest =>
      if e = 'e' || e = 'E' then
        let sign := match rest with
          | '+' :: _ | '-' :: _ => 1
          | _ => 0
        let n := Measure.digits isDigit (rest.drop sign)
        if 0 < n then 1 + sign + n else 0
      else 0
  | [] => 0

/-- The point of a numeral with the digits after it. A point before a letter or another point
is none. -/
def fraction (cs : List Char) : Nat :=
  match cs with
  | '.' :: rest =>
      if (rest.head?.map fun c => c.isAlpha || c = '.').getD false then 0
      else 1 + Measure.digits isDigit rest
  | _ => 0

/-- A number with a fraction or an exponent, and its type. -/
def decimal : Measure
  | [] => none
  | d :: cs =>
      if !isDigit d then none
      else
        let whole := 1 + Measure.digits isDigit cs
        let point := fraction ((d :: cs).drop whole)
        let power := exponent ((d :: cs).drop (whole + point))
        let n := whole + point + power
        if point + power = 0 then none
        else match (d :: cs).drop n with
          | t :: rest =>
              let width := (rest.takeWhile isDigit).length
              if (t = 'u' || t = 'i' || t = 'f') && 0 < width then some (n + 1 + width)
              else some n
          | [] => some n

/-- A number. -/
def numeral : Measure := Measure.oneOf [decimal, integer]

/-- What a backslash begins in a text or character. -/
def escape : Measure
  | '\\' :: 'u' :: '\x7b' :: cs =>
      let n := (cs.takeWhile fun c => (hexValue? c).isSome).length
      if 0 < n && (cs.drop n).head? = some '\x7d' then some (n + 4) else none
  | '\\' :: 'u' :: a :: b :: c :: d :: _ =>
      if [a, b, c, d].all fun x => (hexValue? x).isSome then some 6 else none
  | '\\' :: 'x' :: a :: b :: _ =>
      if (hexValue? a).isSome && (hexValue? b).isSome then some 4 else none
  | '\\' :: c :: _ => if c = 'x' || c = 'u' then none else some 2
  | _ => none

/-- A text after its opening quote; the number bounds the characters and escapes read. -/
def textRest : Nat → Measure
  | 0, _ => none
  | _ + 1, [] => none
  | n + 1, c :: cs =>
      if c = '\x22' then some 1
      else if c = '\\' then
        (escape (c :: cs)).bind fun k => (textRest n ((c :: cs).drop k)).map (· + k)
      else (textRest n cs).map (· + 1)

/-- A text in quotes, of characters or bytes. -/
def text : Measure
  | '\x22' :: cs => (textRest (cs.length + 1) cs).map (· + 1)
  | 'b' :: '\x22' :: cs | 'c' :: '\x22' :: cs => (textRest (cs.length + 1) cs).map (· + 2)
  | _ => none

/-- A text without escapes, between quotes and equally many hashes on both sides. -/
def rawText : Measure := fun cs =>
  let letters := match cs with
    | 'r' :: _ => 1
    | 'b' :: 'r' :: _ | 'c' :: 'r' :: _ => 2
    | _ => 0
  if letters = 0 then none
  else
    let hashes := ((cs.drop letters).takeWhile (· = '#')).length
    match cs.drop (letters + hashes) with
    | '\x22' :: rest =>
        (Measure.through ('\x22' :: List.replicate hashes '#') rest).map
          (letters + hashes + 1 + ·)
    | _ => none

/-- A character or byte in quotes. -/
def character : Measure := fun cs =>
  let n := if cs.head? = some 'b' then 1 else 0
  match cs.drop n with
  | '\'' :: '\'' :: _ => some (n + 2)
  | '\'' :: '\\' :: rest =>
      (escape ('\\' :: rest)).bind fun k =>
        if (('\\' :: rest).drop k).head? = some '\'' then some (n + k + 2) else none
  | '\'' :: _ :: '\'' :: _ => some (n + 3)
  | _ => none

/-- A number, text or character. -/
def literal : Measure := Measure.oneOf [numeral, rawText, text, character]

/-- A block comment after its opening, in which others may nest. -/
def blockCommentRest : Nat → Measure
  | _, [] => none
  | depth, '*' :: '/' :: cs =>
      if depth = 0 then some 2 else (blockCommentRest (depth - 1) cs).map (· + 2)
  | depth, '/' :: '*' :: cs => (blockCommentRest (depth + 1) cs).map (· + 2)
  | depth, _ :: cs => (blockCommentRest depth cs).map (· + 1)

/-- Whether what follows two slashes makes the comment one of documentation. -/
def isDocumentation : List Char → Bool
  | '/' :: '/' :: _ => false
  | '/' :: _ | '!' :: _ => true
  | _ => false

/-- The gap at the head of a text: a run of blanks or one comment. -/
def gap? (cs : List Char) : Option Gap :=
  match cs with
  | '/' :: '/' :: rest =>
      let n := Measure.restOfLine rest
      let ended := if isDocumentation rest && n < rest.length then 1 else 0
      some ⟨true, 2 + n + ended⟩
  | '/' :: '*' :: rest => (blockCommentRest 0 rest).map fun n => ⟨true, 2 + n⟩
  | _ =>
      let n := (cs.takeWhile fun c => c.isWhitespace || c = '\x0b' || c = '\x0c').length
      if n = 0 then none else some ⟨false, n⟩

/-- The gaps at the head of a text, in order. -/
def gapsWithin : Nat → List Char → List Gap
  | 0, _ => []
  | n + 1, cs =>
      match gap? cs with
      | none => []
      | some gap => gap :: gapsWithin n (cs.drop gap.length)

/-- All gaps between the last token and the next. -/
def gaps (cs : List Char) : List Gap := gapsWithin cs.length cs

/-- The operators that compute or compare. -/
def binaryMarks : List String :=
  ["+", "-", "*", "/", "%", "&&", "||", "&", "|", "^", "==", "!=", "<", "<=", ">", ">=", "<<",
    ">>"]

/-- The operators that assign. -/
def assignmentMarks : List String :=
  ["=", "+=", "-=", "*=", "/=", "%=", "&=", "|=", "^=", "<<=", ">>="]

/-- The operators that make a range. -/
def rangeMarks : List String := ["..", "...", "..="]

/-- The marks that a longest match tells apart. -/
def marks : List (List Char) :=
  (binaryMarks ++ assignmentMarks ++ rangeMarks ++ ["=>", "->", ".", "?", "!", "::", ":"]).map
    String.toList

/-- The longest mark here, if it is one of those given. -/
def markAmong (chosen : List String) : Measure := fun cs =>
  (Measure.longest marks cs).bind fun n =>
    if chosen.contains (String.ofList (cs.take n)) then some n else none

/-- The operators that go on with a block-like statement, for no statement begins with them. -/
def continuingMarks : List String :=
  ["+", "/", "%", "&&", "||", "^", "==", "!=", "<=", ">", ">=", "<<", ">>", ".", "?"] ++
    assignmentMarks

/-- A mark within the arguments of a macro, brackets apart. -/
def looseMark : Measure
  | c :: _ => if "+-*/%^!&|<>=@_.,;:#?'$".toList.contains c then some 1 else none
  | [] => none

/-- The line that names an interpreter, at the head of a source. -/
def interpreterLine : Measure
  | '#' :: '!' :: cs =>
      if cs.head? = some '[' then none else some (2 + Measure.restOfLine cs)
  | _ => none

end Mutagenesis.Syntax.Rust
