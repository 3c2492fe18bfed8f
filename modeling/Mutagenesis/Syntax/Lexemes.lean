import Mutagenesis.Text.Characters
import Mutagenesis.Text.Decimal

/-!
# Lexemes

Measures shared by the grammars: each answers how many characters of the text a lexeme takes, and
`none` where there is none. A number or a quoted text is one lexeme; what surrounds it decides
whether it may stand there.
-/
namespace Mutagenesis.Syntax

open Text (isDigit hexValue?)

/-- A measure of the lexeme at the head of a text. -/
abbrev Measure := List Char → Option Nat

namespace Measure

/-- The characters up to the end of the line. -/
def restOfLine (cs : List Char) : Nat := (cs.takeWhile (· ≠ '\n')).length

/-- The characters through the first occurrence of the mark; `none` when there is none. -/
def through (mark : List Char) : Measure
  | [] => if mark.isEmpty then some 0 else none
  | c :: cs =>
      if mark.isPrefixOf (c :: cs) then some mark.length
      else (through mark cs).map (· + 1)

/-- A quoted text after its opening quote: a backslash takes the next character with it, and a
line feed outside of one is refused unless the text may span lines. -/
def quotedRest (quote : Char) (multiline : Bool) : Measure
  | [] => none
  | ['\\'] => none
  | '\\' :: '\r' :: '\n' :: cs => (quotedRest quote multiline cs).map (· + 3)
  | '\\' :: _ :: cs => (quotedRest quote multiline cs).map (· + 2)
  | c :: cs =>
      if c = quote then some 1
      else if c = '\n' && !multiline then none
      else (quotedRest quote multiline cs).map (· + 1)

/-- A run of digits of a class in which single underscores may stand between digits. -/
def digits (p : Char → Bool) (cs : List Char) : Nat :=
  (cs.takeWhile fun c => p c || c = '_').length

/-- The first measure that takes something. -/
def oneOf (measures : List Measure) : Measure := fun cs => measures.findSome? fun m => m cs

/-- The longest of the marks that stands here. -/
def longest (marks : List (List Char)) : Measure := fun cs =>
  (marks.filter (·.isPrefixOf cs)).foldl
    (fun best m => match best with
      | none => some m.length
      | some n => some (max n m.length)) none

end Measure

end Mutagenesis.Syntax
