import Mutagenesis.Syntax.Lexemes
import Mutagenesis.Syntax.Rule

/-!
# Tokens of JavaScript and TypeScript

Names, numerals, texts and regular expressions, the gaps between tokens, and the rule by which the
end of a line stands for a semicolon.
-/
namespace Mutagenesis.Syntax.Script

open Text (isBlank isDigit hexValue?)

/-- Blanks between tokens: white space of Unicode, the byte order mark and the zero-width space
and word joiner. -/
def isSpace (c : Char) : Bool :=
  isBlank c || c.toNat == 0xFEFF || c.toNat == 0x200B || c.toNat == 0x2060

/-- The characters that end a line. -/
def isLineEnd (c : Char) : Bool := c = '\n' || c.toNat == 0x2028 || c.toNat == 0x2029

/-- The characters that no name holds, escapes apart. -/
def isPunctuation (c : Char) : Bool :=
  ":;\x60\x22'@#.,|^&<=>+-*/\\%?!~()[]\x7b\x7d".toList.contains c

/-- Whether a name may go on with the character: any that is neither a control character of
ASCII, nor a blank, nor punctuation. -/
def isNamePart (c : Char) : Bool := 0x20 < c.toNat && !isSpace c && !isPunctuation c

/-- The characters of a name, escapes of the form `\uXXXX` or `\u{X}` included. -/
def nameRest : Measure
  | '\\' :: 'u' :: '\x7b' :: cs =>
      let n := (cs.takeWhile fun c => (hexValue? c).isSome).length
      if 0 < n && (cs.drop n).head? = some '\x7d' then
        some (n + 4 + (nameTail (cs.drop (n + 1))))
      else none
  | '\\' :: 'u' :: a :: b :: c :: d :: cs =>
      if [a, b, c, d].all fun x => (hexValue? x).isSome then some (6 + nameTail cs) else none
  | cs => if nameTail cs = 0 then none else some (nameTail cs)
where
  nameTail (cs : List Char) : Nat := (cs.takeWhile isNamePart).length

/-- A word: a name or a keyword. -/
def word : Measure
  | [] => none
  | c :: cs => if isDigit c then none else nameRest (c :: cs)

/-- The words that are no names. -/
def reserved : List String :=
  ["break", "case", "catch", "class", "const", "continue", "debugger", "default", "delete", "do",
    "else", "enum", "extends", "false", "finally", "for", "function", "if", "import", "in",
    "instanceof", "new", "null", "return", "super", "switch", "this", "throw", "true", "try",
    "typeof", "var", "void", "while", "with"]

/-- A name: a word that is not reserved. -/
def name : Measure := fun cs =>
  (word cs).bind fun n =>
    if reserved.contains (String.ofList (cs.take n)) then none else some n

/-- Exactly this word. -/
def exactWord (text : String) : Measure := fun cs =>
  (word cs).bind fun n => if cs.take n = text.toList then some n else none

/-- The exponent of a numeral. -/
def exponent (cs : List Char) : Nat :=
  match cs with
  | e :: rest =>
      if e = 'e' || e = 'E' then
        let sign := match rest with
          | '+' :: _ | '-' :: _ => 1
          | _ => 0
        let n := Measure.digits isDigit (rest.drop sign)
        if 0 < n then 1 + sign + n else 0
      else 0
  | [] => 0

/-- A numeral in any base, with a fraction or exponent in base ten, or the suffix of a big
integer. -/
def numeral : Measure := fun cs =>
  let based (p : Char → Bool) (rest : List Char) : Option Nat :=
    let n := Measure.digits p rest
    if n = 0 then none
    else some (2 + n + (if (rest.drop n).head? = some 'n' then 1 else 0))
  match cs with
  | '0' :: 'x' :: rest | '0' :: 'X' :: rest => based (fun c => (hexValue? c).isSome) rest
  | '0' :: 'b' :: rest | '0' :: 'B' :: rest => based (fun c => c = '0' || c = '1') rest
  | '0' :: 'o' :: rest | '0' :: 'O' :: rest => based (fun c => '0' ≤ c && c ≤ '7') rest
  | '.' :: rest =>
      let n := match rest with
        | d :: _ => if isDigit d then Measure.digits isDigit rest else 0
        | [] => 0
      if n = 0 then none else some (1 + n + exponent (rest.drop n))
  | d :: _ =>
      if !isDigit d then none
      else
        let whole := Measure.digits isDigit cs
        match cs.drop whole with
        | 'n' :: _ => some (whole + 1)
        | '.' :: rest =>
            let fraction := match rest with
              | f :: _ => if isDigit f then Measure.digits isDigit rest else 0
              | [] => 0
            some (whole + 1 + fraction + exponent (rest.drop fraction))
        | rest => some (whole + exponent rest)
  | [] => none

/-- A text in single or double quotes. -/
def text : Measure
  | c :: cs =>
      if c = '\'' || c = '\x22' then (Measure.quotedRest c false cs).map (· + 1) else none
  | [] => none

/-- The body of a regular expression through its closing slash; within brackets a slash stands
for itself. -/
def patternRest (bracketed : Bool) : Measure
  | [] => none
  | ['\\'] => none
  | '\\' :: c :: cs => if c = '\n' then none else (patternRest bracketed cs).map (· + 2)
  | c :: cs =>
      if c = '\n' then none
      else if c = '/' && !bracketed then some 1
      else
        let inside := if c = '[' then true else if c = ']' then false else bracketed
        (patternRest inside cs).map (· + 1)

/-- A regular expression with its flags. -/
def pattern : Measure
  | '/' :: '*' :: _ => none
  | '/' :: '/' :: _ => none
  | '/' :: cs =>
      (patternRest false cs).map fun n =>
        1 + n + ((cs.drop n).takeWhile fun c => 'a' ≤ c && c ≤ 'z').length
  | _ => none

/-- The gap at the head of a text: a run of blanks or one comment. -/
def gap? (cs : List Char) : Option Gap :=
  match cs with
  | '/' :: '/' :: rest =>
      some ⟨true, 2 + (rest.takeWhile fun c => !isLineEnd c && c ≠ '\r').length⟩
  | '/' :: '*' :: rest => (Measure.through ['*', '/'] rest).map fun n => ⟨true, 2 + n⟩
  | _ =>
      let n := (cs.takeWhile isSpace).length
      if n = 0 then none else some ⟨false, n⟩

/-- The gaps at the head of a text, in order. -/
def gapsWithin : Nat → List Char → List Gap
  | 0, _ => []
  | n + 1, cs =>
      match gap? cs with
      | none => []
      | some gap => gap :: gapsWithin n (cs.drop gap.length)

/-- All gaps between the last token and the next. -/
def gaps (cs : List Char) : List Gap := gapsWithin cs.length cs

/-- What the gaps before the next token leave, and whether a line ends in one of them that is no
comment. -/
def afterGaps (cs : List Char) : Bool × List Char :=
  (gaps cs).foldl
    (fun state gap =>
      (state.1 || (!gap.isComment && (state.2.take gap.length).any isLineEnd),
        state.2.drop gap.length))
    (false, cs)

/-- Whether a statement that has come to the end of a line can go on with the next one. -/
def continuesLine : List Char → Bool
  | [] => false
  | c :: rest =>
      if "\x60,:;*%><=[(?^|&/".toList.contains c then true
      else match c with
        | '.' => !((rest.head?.map isDigit).getD false)
        | '+' => rest.head? ≠ some '+'
        | '-' => rest.head? ≠ some '-'
        | '!' => rest.head? = some '='
        | 'i' => ["in".toList, "instanceof".toList].any fun w =>
            w.isPrefixOf (c :: rest) &&
              !(((c :: rest).drop w.length).head?.map isNamePart).getD false
        | _ => false

/-- Whether a statement may end here without a semicolon: at the end of the source, before a
closing brace, or where a line ends and the next one does not continue it. -/
def endsStatement (cs : List Char) : Bool :=
  let (lineEnds, rest) := afterGaps cs
  match rest with
  | [] => true
  | c :: _ => c = '\x7d' || (lineEnds && !continuesLine rest)

/-- The operators and other marks that a longest match tells apart. -/
def marks : List (List Char) :=
  ["+", "-", "*", "/", "%", "**", "<<", ">>", ">>>", "<", ">", "<=", ">=", "==", "!=", "===",
    "!==", "&", "|", "^", "&&", "||", "??", "=", "+=", "-=", "*=", "/=", "%=", "**=", "<<=",
    ">>=", ">>>=", "&=", "|=", "^=", "&&=", "||=", "??=", "=>", "++", "--", "?.", "?", "!", "~",
    ".", "..."].map String.toList

/-- The longest mark here, if it is one of those given. -/
def markAmong (chosen : List String) : Measure := fun cs =>
  (Measure.longest marks cs).bind fun n =>
    if chosen.contains (String.ofList (cs.take n)) then some n else none

/-- An operator between two operands. -/
def binaryOperator : Measure :=
  markAmong ["+", "-", "*", "/", "%", "**", "<<", ">>", ">>>", "<", ">", "<=", ">=", "==", "!=",
    "===", "!==", "&", "|", "^", "&&", "||", "??"]

/-- An operator that assigns. -/
def assignmentOperator : Measure :=
  markAmong ["=", "+=", "-=", "*=", "/=", "%=", "**=", "<<=", ">>=", ">>>=", "&=", "|=", "^=",
    "&&=", "||=", "??="]

/-- The text after the bracket that closes the one before it, `depth` brackets deep; quoted texts
and comments are passed over, and the number bounds the lexemes read. -/
def afterBrackets : Nat → Nat → List Char → Option (List Char)
  | 0, _, _ => none
  | _ + 1, _, [] => none
  | n + 1, depth, c :: cs =>
      if "([\x7b".toList.contains c then afterBrackets n (depth + 1) cs
      else if ")]\x7d".toList.contains c then
        if depth ≤ 1 then some cs else afterBrackets n (depth - 1) cs
      else match text (c :: cs) with
        | some k => afterBrackets n depth ((c :: cs).drop k)
        | none =>
            match gap? (c :: cs) with
            | some gap => afterBrackets n depth ((c :: cs).drop gap.length)
            | none => afterBrackets n depth cs

/-- Whether the text, gaps aside, begins with brackets that one of the marks follows. -/
def bracketsBefore (followers : List String) : Measure := fun cs =>
  match (afterGaps cs).2 with
  | '(' :: rest =>
      (afterBrackets (rest.length + 1) 1 rest).bind fun after =>
        if followers.any fun m => m.toList.isPrefixOf (afterGaps after).2 then some 0 else none
  | _ => none

/-- The name of an element: a name that may hold hyphens. -/
def elementName : Measure := fun cs =>
  (word cs).map fun n =>
    n + ((cs.drop n).takeWhile fun c => c = '-' || isNamePart c).length

/-- A text in quotes without escapes, as attributes of elements hold. -/
def attributeText : Measure
  | c :: cs =>
      if c = '\'' || c = '\x22' then (Measure.through [c] cs).map (· + 1) else none
  | [] => none

/-- A character reference in the text of an element. -/
def characterReference : Measure
  | '&' :: cs =>
      let n := (cs.takeWhile fun c => c.isAlphanum || c = '#').length
      if 0 < n && (cs.drop n).head? = some ';' then some (n + 2) else none
  | _ => none

/-- The line that names an interpreter, at the head of a source. -/
def interpreterLine : Measure
  | '#' :: '!' :: cs => some (2 + Measure.restOfLine cs)
  | _ => none

end Mutagenesis.Syntax.Script
