import Mutagenesis.Syntax.Reading
import Mutagenesis.Syntax.Python.Layout
import Mutagenesis.Syntax.Python.Tokens

/-!
# The grammar of Python

Expressions come in layers, for what may be an operand differs between them: arithmetic and
comparisons take operands without `not`, `lambda` or a condition, which `and`, `or` and `not` do
take. Within a layer operators are not ranked. In brackets of one kind the first element is read
once and what follows it decides the form: an expression in parentheses, a tuple or a generator.
-/
namespace Mutagenesis.Syntax.Python

open Rule

/-- The symbols of the grammar. -/
inductive Symbol where
  | program | statementLine | statement | simpleLine | simple | suite | decorated | definition
  | matchCase | casePattern | closedPattern
  | expressions | expression | disjunction | inversion | comparison | arithmetic | operand | chain
  | atom | parenthesized | argumentList | argument | comprehension | element | subscript
  | target | targets | yielded | assigned | parameters | parameter | lambdaParameter
  | typeParameters | text | formatField | formatSpec
  deriving DecidableEq

/-- Rules of this grammar are read in a layout. -/
abbrev Clause := Rule Layout Symbol

def keyword (text : String) : Clause := token (exactWord text)

def keywords (texts : List String) : Clause := oneOf (texts.map keyword)

def comma : Clause := mark ","

/-- Where an operand must follow, line ends are blanks unless the line leaves the block. -/
def join : Clause := opt (within inBlock skip)

/-- A word that an operand follows. -/
def leading (text : String) : Clause := inOrder [keyword text, join]

/-- One of the marks, and an operand follows. -/
def operators (texts : List String) : Clause := inOrder [token (markAmong texts), join]

/-- Reads within brackets, where line ends are blanks. -/
def bracketed (r : Clause) : Clause :=
  within (fun layout _ => some { layout with joined := true }) r

/-- Something in brackets. -/
def enclosed (opening closing : String) (r : Clause) : Clause :=
  inOrder [mark opening, bracketed (inOrder [r, mark closing])]

/-- The end of a simple statement's line. -/
def lineEnd : Clause := lexeme fun cs => if endsLine cs then some 0 else none

/-- A clause that goes on with a statement, on a line of the statement's own block. -/
def clause (rules : List Clause) : Clause := inOrder (within inBlock skip :: rules)

/-- The suite of a statement after its header. -/
def body : Clause := inOrder [mark ":", sub .suite]

def nameToken : Clause := leaf .name name

/-- Items with commas between them and perhaps one at the end. -/
def listed (item : Clause) : Clause := inOrder [sepBy1 item comma, opt comma]

/-- Accepts what may stand left of an assignment. -/
def isTarget : Kind → Bool
  | .name | .member | .assignable | .parenthesized | .display => true
  | _ => false

def anyKind : Kind → Bool := fun _ => true

/-- One of the two ways to write a star before an operand. -/
def starred : Clause := form [mark "*", sub .expression]

/-- A text with replacement fields between the quotes. -/
def formatted (quotes : String) (multiline : Bool) : Clause :=
  let quote := quotes.toList.headD '\x22'
  inOrder [
    lexeme (formattedStart quotes),
    many (inOrder [
      notAhead (exactly quotes),
      oneOf [
        run fun c => c ≠ quote && c ≠ '\\' && c ≠ '\x7b' && c ≠ '\x7d' && (multiline || c ≠ '\n'),
        inOrder [exactly "\\N\x7b", run fun c => c ≠ '\x7d', exactly "\x7d"],
        inOrder [exactly "\\", one fun c => c ≠ '\x7b' && c ≠ '\x7d'],
        exactly "\\", exactly "\x7b\x7b", exactly "\x7d\x7d", sub .formatField,
        if multiline then one fun c => c = quote else fail]]),
    exactly quotes]

/-- The rules of the grammar. -/
def rule : Symbol → Clause
  | .program => inOrder [many (sub .statementLine), bracketed skip]
  | .statementLine => inOrder [within atStatement skip, sub .statement]
  | .statement => oneOf [
      node (.conditional .ifThen) (inOrder [
        leading "if", label .condition (sub .expression), body,
        many (node (.conditional .elseIf) (clause [
          leading "elif", label .condition (sub .expression), body])),
        opt (clause [keyword "else", body])]),
      node (.conditional .whileLoop) (inOrder [
        leading "while", label .condition (sub .expression), body,
        opt (clause [keyword "else", body])]),
      form [
        opt (keyword "async"), leading "for", sub .targets, leading "in", sub .expressions, body,
        opt (clause [keyword "else", body])],
      form [
        keyword "try", body,
        oneOf [
          inOrder [
            many1 (clause [
              keyword "except", opt (mark "*"),
              maybe [
                sub .expression,
                maybe [oneOf [keyword "as", comma], sub .expression],
                many (inOrder [comma, sub .expression])],
              body]),
            opt (clause [keyword "else", body]), opt (clause [keyword "finally", body])],
          clause [keyword "finally", body]]],
      form [opt (keyword "async"), leading "with", sub .expressions, body],
      sub .definition,
      sub .decorated,
      form [
        keyword "match", sub .expressions, mark ":",
        oneOf [
          within deeper (many1 (clause [sub .matchCase])),
          lineEnd]],
      sub .simpleLine]
  | .simpleLine => inOrder [
      sub .simple, many (inOrder [mark ";", sub .simple]), opt (mark ";"), lineEnd]
  | .simple => oneOf [
      form [
        keyword "from",
        oneOf [inOrder [many1 (mark "."), opt (sepBy1 nameToken (mark "."))],
          sepBy1 nameToken (mark ".")],
        keyword "import",
        oneOf [mark "*", enclosed "(" ")" (listed imported), listed imported]],
      form [keyword "import", listed imported],
      form [leading "assert", sepBy1 (sub .expression) comma],
      form [keyword "return", opt (sub .expressions)],
      form [leading "del", sub .expressions],
      form [
        keyword "raise", opt (sub .expressions), maybe [leading "from", sub .expression]],
      form [keywords ["pass", "break", "continue"]],
      form [keywords ["global", "nonlocal"], sepBy1 nameToken comma],
      form [
        keyword "type", nameToken, opt (sub .typeParameters), operators ["="], sub .expression],
      inOrder [sub .assigned, ahead ended],
      form [keyword "print", oneOf [
        inOrder [
          token (markAmong [">>"]), sub .expression, many (inOrder [comma, sub .expression]),
          opt comma],
        listed (sub .expression)]],
      form [
        keyword "exec", oneOf [sub .text, nameToken],
        maybe [leading "in", sepBy1 (sub .expression) comma]]]
  | .suite => oneOf [
      within deeper (form [many1 (sub .statementLine)]),
      inOrder [notAhead lineEnd, sub .simpleLine],
      lineEnd]
  | .decorated => form [
      many1 (inOrder [form [mark "@", sub .expression, lineEnd], within inBlock skip]),
      sub .definition]
  | .definition => oneOf [
      form [
        opt (keyword "async"), keyword "def", nameToken, opt (sub .typeParameters),
        sub .parameters, maybe [mark "->", sub .expression], body],
      form [
        keyword "class", nameToken, opt (sub .typeParameters), opt (sub .argumentList), body]]
  | .matchCase => form [
      keyword "case", listed (sub .casePattern), maybe [leading "if", sub .expression], body]
  | .casePattern => form [
      sepBy1 (sub .closedPattern) (token (markAmong ["|"])), maybe [keyword "as", nameToken]]
  | .closedPattern => oneOf [
      inOrder [opt (mark "-"), token numeral, maybe [
        oneOf [mark "+", mark "-"], token numeral]],
      many1 (sub .text),
      keywords ["None", "True", "False"],
      inOrder [oneOf [mark "**", mark "*"], nameToken],
      enclosed "[" "]" (opt (listed (sub .casePattern))),
      enclosed "(" ")" (opt (listed (sub .casePattern))),
      enclosed "\x7b" "\x7d" (opt (listed (oneOf [
        inOrder [mark "**", nameToken],
        inOrder [sub .closedPattern, mark ":", sub .casePattern]]))),
      inOrder [
        sepBy1 nameToken (mark "."),
        opt (enclosed "(" ")" (opt (listed (oneOf [
          inOrder [nameToken, token (markAmong ["="]), sub .casePattern],
          sub .casePattern]))))]]
  | .expressions => grow (sub .element) (Steps.ofList [
      (anyKind, .display, .part, inOrder [
        comma, opt (listed (sub .element)), notAhead comma])])
  | .expression => grow (sub .disjunction) (Steps.ofList [
      (anyKind, .other, .part, inOrder [
        leading "if", sub .disjunction, leading "else", sub .expression]),
      (anyKind, .other, .part, inOrder [keyword "as", sub .disjunction])])
  | .disjunction => grow (sub .inversion) (Steps.ofList [
      (anyKind, .other, .part, inOrder [
        oneOf [leading "and", leading "or"], sub .inversion])])
  | .inversion => oneOf [
      form [leading "not", sub .inversion],
      form [keyword "lambda", opt (listed (sub .lambdaParameter)), mark ":", join,
        sub .expression],
      form [nameToken, operators [":="], sub .expression],
      sub .comparison]
  | .comparison => grow (sub .arithmetic) (Steps.ofList [
      (anyKind, .other, .part, inOrder [
        oneOf [operators comparisonMarks, leading "in", inOrder [keyword "not", leading "in"],
          inOrder [leading "is", opt (leading "not")]],
        sub .arithmetic])])
  | .arithmetic => grow (sub .operand) (Steps.ofList [
      (anyKind, .other, .part, inOrder [operators arithmeticMarks, sub .operand])])
  | .operand => oneOf [
      form [operators ["+", "-"], sub .operand],
      form [mark "~", sub .operand],
      form [leading "await", sub .operand],
      sub .chain]
  | .chain => grow (sub .atom) (Steps.ofList [
      (anyKind, .call, .callee, label .arguments (sub .argumentList)),
      (anyKind, .member, .receiver, inOrder [markNot "." ".", join, token word]),
      (anyKind, .assignable, .part, enclosed "[" "]" (listed (sub .subscript)))])
  | .atom => oneOf [
      leaf .other numeral,
      form [sub .text, many (sub .text)],
      sub .parenthesized,
      node .display (enclosed "[" "]" (maybe [
        sub .element,
        oneOf [sub .comprehension, inOrder [many (inOrder [comma, sub .element]), opt comma]]])),
      node .other (enclosed "\x7b" "\x7d" (maybe [
        entry,
        oneOf [sub .comprehension, inOrder [many (inOrder [comma, entry]), opt comma]]])),
      form [keywords ["None", "True", "False"]],
      form [mark "..."],
      nameToken]
  | .parenthesized => oneOf [
      node .display (enclosed "(" ")" empty),
      inOrder [
        ahead (mark "("),
        bracketed (once (inOrder [mark "(", sub .element]) (Steps.ofList [
          (anyKind, .parenthesized, .part, mark ")"),
          (anyKind, .other, .part, inOrder [sub .comprehension, mark ")"]),
          (anyKind, .display, .part, inOrder [
            many (inOrder [comma, sub .element]), opt comma, mark ")"])]))]]
  | .argumentList => node .arguments (enclosed "(" ")" (maybe [
      sub .argument,
      oneOf [
        inOrder [sub .comprehension],
        inOrder [many (inOrder [comma, sub .argument]), opt comma]]]))
  | .argument => oneOf [
      form [mark "**", sub .expression],
      starred,
      form [nameToken, operators ["="], sub .expression],
      sub .expression]
  | .comprehension => many1 (oneOf [
      inOrder [
        opt (keyword "async"), leading "for", sub .targets, leading "in",
        sepBy1 (sub .expression) comma],
      inOrder [leading "if", sub .expression]])
  | .element => oneOf [starred, sub .yielded, sub .expression]
  | .subscript => oneOf [starred, form [sub .expression, opt bounds], form [bounds]]
  | .target => oneOf [
      form [mark "*", sub .target],
      ending isTarget (sub .chain)]
  | .targets => listed (sub .target)
  | .yielded => form [
      keyword "yield",
      oneOf [inOrder [leading "from", sub .expression], opt (sub .expressions)]]
  | .assigned => oneOf [
      form [
        ending isTarget (sub .expressions),
        oneOf [
          many1 (inOrder [operators ["="], value]),
          inOrder [operators augmentedMarks, value],
          inOrder [mark ":", sub .expression, maybe [operators ["="], value]]]],
      node .expressionStatement value]
  | .parameters => node .other (enclosed "(" ")" (opt (listed (sub .parameter))))
  | .parameter => oneOf [
      mark "/",
      form [
        oneOf [mark "**", mark "*"], opt nameToken, maybe [mark ":", sub .expression]],
      form [
        nameToken, maybe [mark ":", sub .expression],
        maybe [operators ["="], sub .expression]],
      enclosed "(" ")" (listed (sub .parameter))]
  | .lambdaParameter => oneOf [
      mark "/",
      form [oneOf [mark "**", mark "*"], opt nameToken],
      form [nameToken, maybe [operators ["="], sub .expression]],
      enclosed "(" ")" (listed (sub .lambdaParameter))]
  | .typeParameters => enclosed "[" "]" (listed (inOrder [
      opt (oneOf [mark "**", mark "*"]), sub .expression,
      maybe [mark ":", sub .expression], maybe [operators ["="], sub .expression]]))
  | .text => oneOf [
      leaf .other plainText,
      node .other (formatted "\x22\x22\x22" true),
      node .other (formatted "'''" true),
      node .other (formatted "\x22" false),
      node .other (formatted "'" false)]
  | .formatField => form [
      exactly "\x7b",
      bracketed (inOrder [
        sub .expressions, opt (token (markAmong ["="])),
        maybe [mark "!", one Char.isLower], maybe [mark ":", sub .formatSpec],
        mark "\x7d"])]
  | .formatSpec => many (oneOf [
      run fun c => c ≠ '\x7b' && c ≠ '\x7d' && c ≠ '\n',
      sub .formatField])
where
  value : Clause := oneOf [sub .yielded, sub .expressions]
  bounds : Clause := inOrder [
    mark ":", opt (sub .expression), maybe [mark ":", opt (sub .expression)]]
  ended : Clause := oneOf [mark ";", lineEnd]
  imported : Clause := inOrder [sepBy1 nameToken (mark "."), maybe [keyword "as", nameToken]]
  entry : Clause := oneOf [
    form [mark "**", sub .expression],
    form [sub .element, maybe [mark ":", sub .expression]]]

/-- The grammar of Python. -/
def grammar : Grammar Layout Symbol where
  rule := rule
  start := .program
  context := ⟨0, false⟩
  gaps := gaps

end Mutagenesis.Syntax.Python
