import Mutagenesis.Syntax.Reading
import Mutagenesis.Syntax.Rust.Tokens

/-!
# The grammar of Rust

The context says whether a record display may stand here: between the keyword of a condition, loop
or match and its block it may not, for its brace would be taken for the block's, and within
brackets it may again. Operators are not ranked. A statement that ends with a block needs no
semicolon; it goes on as an operand only before an operator that begins no statement.
-/
namespace Mutagenesis.Syntax.Rust

open Rule

/-- The symbols of the grammar. -/
inductive Symbol where
  | program | statement | declaration | item | members | attribute | visibility | importTree
  | fields | placedFields | variants | signature | whereClause | parameters | parameter
  | block | blockLike | ifForm | condition | matchArm
  | expression | operand | chain | primary | path | recordField | parenthesized | list
  | argumentList | macroCall | tokenTree | rangeEnd
  | pattern | closedPattern | patternEnd | fieldPattern
  | type | plainType | typePath | typeArguments | typeArgument | typeParameters | typeParameter
  | bounds
  deriving DecidableEq

/-- Where a clause is read: whether a brace after a name opens the block of a statement. -/
structure Place where
  beforeBlock : Bool

/-- Rules of this grammar are read in a place. -/
abbrev Clause := Rule Place Symbol

def keyword (text : String) : Clause := token (exactWord text)

def keywords (texts : List String) : Clause := oneOf (texts.map keyword)

def comma : Clause := mark ","

/-- One of the operators. -/
def operator (texts : List String) : Clause := token (markAmong texts)

def equals : Clause := operator ["="]

/-- Reads where record displays may stand. -/
def free (r : Clause) : Clause := within (fun _ _ => some ⟨false⟩) r

/-- Reads where a block follows. -/
def guarded (r : Clause) : Clause := within (fun _ _ => some ⟨true⟩) r

/-- Succeeds where record displays may stand. -/
def recordsAllowed : Clause := take fun place _ => if place.beforeBlock then none else some 0

/-- Something in brackets. -/
def enclosed (opening closing : String) (rules : List Clause) : Clause :=
  free (inOrder ([mark opening] ++ rules ++ [mark closing]))

def braced (r : Clause) : Clause := enclosed "\x7b" "\x7d" [r]

/-- Items with commas between them; a comma may stand at the end, and also alone. -/
def listed (item : Clause) : Clause := inOrder [opt (sepBy1 item comma), opt comma]

/-- One item or more with commas between them and perhaps one at the end. -/
def listed1 (item : Clause) : Clause := inOrder [sepBy1 item comma, opt comma]

def wordToken : Clause := token word

/-- The words that begin an expression otherwise than as a name. -/
def operandWords : List String :=
  ["async", "break", "const", "continue", "for", "if", "let", "loop", "match", "move", "return",
    "static", "try", "unsafe", "while", "yield"]

/-- The words that begin a statement otherwise than as a name. -/
def statementWords : List String :=
  ["enum", "extern", "fn", "impl", "mod", "pub", "struct", "trait", "type", "use"]

/-- The words that begin a type otherwise than as a name. -/
def typeWords : List String :=
  ["async", "const", "dyn", "extern", "fn", "for", "impl", "mut", "unsafe"]

/-- The words that begin a pattern otherwise than as a name. -/
def patternWords : List String := ["const", "mut", "ref"]

/-- The types without arguments. -/
def plainTypeWords : List String :=
  numberTypes.map String.ofList ++ ["bool", "char", "str"]

/-- A lifetime or the name of a loop or block. -/
def lifetime : Clause := inOrder [notAhead (token character), mark "'", token word]

/-- A parameter of a macro's rules, standing for what it matched. -/
def metavariable : Clause := inOrder [mark "$", lexeme word]

/-- The colon after a name, which is not the first half of a path's. -/
def colon : Clause := operator [":"]

/-- What introduces lifetimes before a type. -/
def forLifetimes : Clause := inOrder [keyword "for", sub .typeParameters]

/-- The result type of a function. -/
def resultType : Clause := inOrder [mark "->", sub .type]

/-- The words before a function. -/
def functionModifiers : Clause := many (oneOf [
  keywords ["async", "default", "const", "unsafe", "gen"],
  inOrder [keyword "extern", opt (token text)]])

def anyKind : Kind → Bool := fun _ => true

/-- Accepts what may take type arguments in an expression. -/
def takesTypes : Kind → Bool
  | .name | .member => true
  | _ => false

/-- Patterns in brackets. -/
def patterns (opening closing : String) : Clause := enclosed opening closing [listed (sub .pattern)]

/-- The rules of a macro between brackets. -/
def macroRules (opening closing : String) : Clause :=
  let transcription := inOrder [sub .tokenTree, mark "=>", sub .tokenTree]
  enclosed opening closing [opt (sepBy1 transcription (mark ";")), opt (mark ";")]

/-- The rules of the grammar. -/
def rule : Symbol → Clause
  | .program => inOrder [opt (lexeme interpreterLine), many (sub .statement)]
  | .statement => oneOf [
      sub .declaration,
      inOrder [sub .blockLike, notAhead (oneOf [operator continuingMarks, keyword "as"])],
      inOrder [
        notAhead (keywords statementWords), sub .expression, oneOf [mark ";", ahead (mark "\x7d")]],
      sub .macroCall]
  | .declaration => oneOf [
      node .emptyStatement (mark ";"),
      sub .attribute,
      form [
        keyword "let", opt (keyword "mut"), sub .pattern, maybe [colon, sub .type],
        maybe [equals, sub .expression], maybe [keyword "else", sub .block], mark ";"],
      form [opt (sub .visibility), sub .item]]
  | .item => oneOf [
      inOrder [sub .signature, oneOf [sub .block, mark ";"]],
      inOrder [keyword "use", sub .importTree, mark ";"],
      inOrder [
        keyword "struct", wordToken, opt (sub .typeParameters),
        oneOf [
          inOrder [opt (sub .whereClause), sub .fields],
          inOrder [sub .placedFields, opt (sub .whereClause), mark ";"],
          mark ";"]],
      inOrder [
        keyword "union", wordToken, opt (sub .typeParameters), opt (sub .whereClause),
        sub .fields],
      inOrder [
        keyword "enum", wordToken, opt (sub .typeParameters), opt (sub .whereClause),
        sub .variants],
      inOrder [
        opt (keyword "unsafe"), keyword "impl", opt (sub .typeParameters),
        maybe [opt (mark "!"), sub .type, keyword "for"], sub .type, opt (sub .whereClause),
        oneOf [sub .members, mark ";"]],
      inOrder [
        opt (keyword "unsafe"), keyword "trait", wordToken, opt (sub .typeParameters),
        opt (sub .bounds), opt (sub .whereClause), sub .members],
      inOrder [
        keyword "const", wordToken, colon, sub .type, maybe [equals, sub .expression],
        mark ";"],
      inOrder [
        keyword "static", opt (keyword "ref"), opt (keyword "mut"), wordToken, colon, sub .type,
        maybe [equals, sub .expression], mark ";"],
      inOrder [
        keyword "type", wordToken, opt (sub .typeParameters),
        oneOf [
          inOrder [
            opt (sub .whereClause), equals, sub .type, opt (sub .whereClause), mark ";"],
          inOrder [opt (sub .bounds), opt (sub .whereClause), mark ";"]]],
      inOrder [keyword "mod", wordToken, oneOf [sub .members, mark ";"]],
      inOrder [
        keyword "extern", keyword "crate", wordToken, maybe [keyword "as", wordToken],
        mark ";"],
      inOrder [
        opt (keyword "unsafe"), keyword "extern", opt (token text),
        oneOf [sub .members, mark ";"]],
      inOrder [
        mark "macro_rules!", wordToken,
        oneOf [
          macroRules "\x7b" "\x7d", inOrder [macroRules "(" ")", mark ";"],
          inOrder [macroRules "[" "]", mark ";"]]]]
  | .members => braced (many (oneOf [sub .declaration, sub .macroCall]))
  | .attribute => form [
      mark "#", opt (mark "!"),
      enclosed "[" "]" [
        sepBy1 wordToken (mark "::"),
        opt (oneOf [inOrder [equals, sub .expression], sub .tokenTree])]]
  | .visibility => inOrder [
      keyword "pub",
      maybe [
        mark "(",
        oneOf [
          keywords ["self", "super", "crate"],
          inOrder [keyword "in", opt (mark "::"), sepBy1 wordToken (mark "::")]],
        mark ")"]]
  | .importTree =>
      let ending := oneOf [mark "*", braced (listed (sub .importTree))]
      oneOf [
        inOrder [opt (mark "::"), ending],
        inOrder [
          opt (mark "::"), sepBy1 wordToken (mark "::"),
          oneOf [inOrder [mark "::", ending], maybe [keyword "as", wordToken]]]]
  | .fields => braced (listed (inOrder [
      many (sub .attribute), opt (sub .visibility), wordToken, colon, sub .type]))
  | .placedFields => enclosed "(" ")" [listed (inOrder [
      many (sub .attribute), opt (sub .visibility), sub .type])]
  | .variants => braced (listed (inOrder [
      many (sub .attribute), opt (sub .visibility), wordToken,
      opt (oneOf [sub .fields, sub .placedFields]), maybe [equals, sub .expression]]))
  | .signature => inOrder [
      functionModifiers, keyword "fn", oneOf [wordToken, metavariable],
      opt (sub .typeParameters), sub .parameters, opt resultType, opt (sub .whereClause)]
  | .whereClause => inOrder [
      keyword "where",
      opt (listed1 (inOrder [
        oneOf [lifetime, inOrder [forLifetimes, sub .plainType], sub .plainType],
        sub .bounds]))]
  | .parameters => enclosed "(" ")" [listed (inOrder [
      many (sub .attribute), sub .parameter])]
  | .parameter => oneOf [
      inOrder [
        opt (keyword "mut"), oneOf [keyword "self", sub .pattern], colon,
        oneOf [mark "...", sub .type]],
      inOrder [
        opt (mark "&"), opt lifetime, opt (keyword "mut"), keyword "self",
        ahead (oneOf [comma, mark ")"])],
      mark "...",
      sub .type]
  | .block => node .other (inOrder [
      maybe [lifetime, colon], braced (many (sub .statement))])
  | .blockLike =>
      let named := maybe [lifetime, colon]
      oneOf [
        sub .ifForm,
        form [keyword "match", guarded (sub .expression), braced (many (sub .matchArm))],
        node (.conditional .whileLoop) (inOrder [
          named, keyword "while", label .condition (guarded (sub .condition)), sub .block]),
        form [
          named, keyword "for", sub .pattern, keyword "in", guarded (sub .expression),
          sub .block],
        form [named, keyword "loop", sub .block],
        form [
          oneOf [
            keywords ["unsafe", "const", "try"],
            inOrder [keywords ["async", "gen"], opt (keyword "move")]],
          sub .block],
        sub .block]
  | .ifForm => node (.conditional .ifThen) (inOrder [
      keyword "if", label .condition (guarded (sub .condition)), sub .block,
      maybe [keyword "else", oneOf [sub .ifForm, sub .block]]])
  | .condition =>
      let matched := form [keyword "let", sub .pattern, equals, sub .expression]
      grow (oneOf [matched, sub .expression]) (Steps.ofList [
        (anyKind, .other, .part, inOrder [operator ["&&"], oneOf [matched, sub .expression]])])
  | .matchArm => form [
      many (sub .attribute), sub .pattern, maybe [keyword "if", sub .condition], mark "=>",
      oneOf [
        inOrder [
          sub .blockLike, notAhead (oneOf [operator continuingMarks, keyword "as"]), opt comma],
        inOrder [sub .expression, oneOf [comma, ahead (mark "\x7d")]]]]
  | .expression => grow (sub .operand) (Steps.ofList [
      (anyKind, .other, .part, inOrder [
        operator (binaryMarks ++ assignmentMarks), sub .operand]),
      (anyKind, .other, .part, inOrder [operator rangeMarks, sub .rangeEnd]),
      (anyKind, .other, .part, inOrder [keyword "as", sub .plainType])])
  | .rangeEnd => maybe [oneOf [recordsAllowed, notAhead (mark "\x7b")], sub .operand]
  | .operand => oneOf [
      form [oneOf [mark "-", mark "*", mark "!"], sub .operand],
      form [
        mark "&",
        opt (oneOf [
          inOrder [keyword "raw", keywords ["const", "mut"]],
          keyword "mut"]),
        sub .operand],
      form [
        opt (keyword "static"), opt (keyword "async"), opt (keyword "move"), mark "|",
        opt (sepBy1 (inOrder [sub .closedPattern, maybe [colon, sub .type]]) comma), mark "|",
        oneOf [inOrder [resultType, sub .block], sub .expression]],
      form [keywords ["return", "yield"], opt (sub .expression)],
      form [keyword "break", opt lifetime, opt (sub .expression)],
      form [keyword "continue", opt lifetime],
      form [operator ["..", "..="], sub .rangeEnd],
      sub .chain]
  | .chain => grow (sub .primary) (Steps.ofList [
      (anyKind, .call, .callee, label .arguments (sub .argumentList)),
      (anyKind, .other, .part, inOrder [operator ["."], keyword "await"]),
      (anyKind, .member, .receiver, inOrder [
        operator ["."], skip, lexeme (Measure.oneOf [word, integer])]),
      (anyKind, .assignable, .part, enclosed "[" "]" [sub .expression]),
      (anyKind, .other, .part, operator ["?"]),
      (takesTypes, .other, .part, inOrder [mark "::", sub .typeArguments])])
  | .primary => oneOf [
      leaf .other literal,
      sub .blockLike,
      sub .macroCall,
      form [
        recordsAllowed, sub .path, maybe [mark "::", sub .typeArguments],
        braced (listed (inOrder [many (sub .attribute), sub .recordField]))],
      sub .path,
      node .name metavariable,
      sub .parenthesized,
      sub .list]
  | .path => node .name (inOrder [
      oneOf [
        inOrder [
          enclosed "<" ">" [sub .type, maybe [keyword "as", sub .type]], mark "::",
          wordToken],
        inOrder [
          opt (mark "::"),
          oneOf [
            token (wordExcept ("super" :: "crate" :: operandWords)),
            inOrder [keywords ["super", "crate"], ahead (mark "::")]]],
        inOrder [metavariable, ahead (mark "::")]],
      many (inOrder [
        mark "::", oneOf [wordToken, inOrder [sub .typeArguments, ahead (mark "::")]]])])
  | .recordField => oneOf [
      form [mark "..", sub .expression],
      form [token (Measure.oneOf [word, integer]), colon, sub .expression],
      node .name wordToken]
  | .parenthesized => oneOf [
      form [enclosed "(" ")" []],
      free (once (inOrder [mark "(", sub .expression]) (Steps.ofList [
        (anyKind, .parenthesized, .part, mark ")"),
        (anyKind, .other, .part, inOrder [
          comma, many (inOrder [sub .expression, comma]), opt (sub .expression), mark ")"])]))]
  | .list => form [enclosed "[" "]" [
      many (sub .attribute),
      maybe [
        sub .expression,
        opt (oneOf [
          inOrder [mark ";", sub .expression],
          many1 (inOrder [comma, many (sub .attribute), sub .expression])])],
      opt comma]]
  | .argumentList => node .arguments (enclosed "(" ")" [
      listed (inOrder [many (sub .attribute), sub .expression])])
  | .macroCall => form [
      opt (mark "::"), token (wordExcept operandWords),
      many (inOrder [mark "::", wordToken]), markNot "!" "=", sub .tokenTree]
  | .tokenTree =>
      let tokens := many (oneOf [
        sub .tokenTree, token literal, token word, token looseMark])
      oneOf [
        enclosed "(" ")" [tokens], enclosed "[" "]" [tokens], enclosed "\x7b" "\x7d" [tokens]]
  | .pattern => inOrder [
      opt (operator ["|"]), sub .closedPattern,
      many (inOrder [operator ["|"], sub .closedPattern])]
  | .closedPattern => oneOf [
      inOrder [sub .patternEnd, operator rangeMarks, opt (sub .patternEnd)],
      inOrder [operator rangeMarks, opt (sub .patternEnd)],
      inOrder [opt (mark "-"), token literal],
      inOrder [keywords ["ref", "mut"], sub .closedPattern],
      inOrder [mark "&", opt (keyword "mut"), sub .closedPattern],
      inOrder [keyword "const", sub .block],
      patterns "(" ")",
      patterns "[" "]",
      inOrder [token (wordExcept patternWords), mark "@", sub .closedPattern],
      inOrder [ahead (token (wordExcept patternWords)), sub .macroCall],
      inOrder [
        sub .patternEnd, maybe [mark "::", sub .typeArguments],
        opt (oneOf [
          patterns "(" ")",
          braced (listed (inOrder [many (sub .attribute), sub .fieldPattern]))])]]
  | .patternEnd => oneOf [
      inOrder [opt (mark "-"), token literal],
      inOrder [notAhead (keywords patternWords), sub .path]]
  | .fieldPattern => oneOf [
      inOrder [token (Measure.oneOf [word, integer]), colon, sub .pattern],
      inOrder [opt (keyword "ref"), opt (keyword "mut"), wordToken],
      mark ".."]
  | .type => inOrder [
      oneOf [lifetime, sub .plainType],
      many (inOrder [
        operator ["+"],
        oneOf [
          lifetime,
          inOrder [
            keyword "use",
            enclosed "<" ">" [listed (oneOf [lifetime, wordToken])]],
          inOrder [forLifetimes, sub .plainType],
          sub .plainType]])]
  | .plainType => oneOf [
      enclosed "(" ")" [opt (listed1 (sub .type))],
      enclosed "[" "]" [sub .type, maybe [mark ";", sub .expression]],
      inOrder [mark "&", opt lifetime, opt (keyword "mut"), sub .plainType],
      inOrder [mark "*", keywords ["const", "mut"], sub .plainType],
      mark "!",
      inOrder [mark "?", sub .plainType],
      inOrder [keywords ["impl", "dyn"], opt forLifetimes, oneOf [lifetime, sub .plainType]],
      inOrder [
        opt forLifetimes, functionModifiers, keyword "fn", sub .parameters, opt resultType],
      inOrder [forLifetimes, sub .typePath],
      inOrder [notAhead (keywords typeWords), sub .macroCall],
      token fun cs =>
        (word cs).bind fun n =>
          if plainTypeWords.contains (String.ofList (cs.take n)) &&
            !"::".toList.isPrefixOf (cs.drop n) then some n else none,
      sub .typePath]
  | .typePath =>
      let ending := opt (oneOf [
        inOrder [opt (mark "::"), sub .typeArguments],
        inOrder [sub .parameters, opt resultType]])
      let segment := inOrder [
        oneOf [token (wordExcept typeWords), metavariable], ending]
      inOrder [
        oneOf [
          inOrder [
            enclosed "<" ">" [sub .type, maybe [keyword "as", sub .type]], mark "::",
            segment],
          inOrder [opt (mark "::"), segment]],
        many (inOrder [mark "::", segment])]
  | .typeArguments => enclosed "<" ">" [listed1 (sub .typeArgument)]
  | .typeArgument => oneOf [
      inOrder [wordToken, opt (sub .typeArguments), equals, sub .type],
      inOrder [lifetime, notAhead (mark "+")],
      inOrder [token literal],
      sub .block,
      inOrder [sub .type, opt (sub .bounds)]]
  | .typeParameters => enclosed "<" ">" [listed1 (sub .typeParameter)]
  | .typeParameter => inOrder [
      many (sub .attribute),
      oneOf [
        inOrder [
          keyword "const", wordToken, colon, sub .type,
          maybe [
            equals, oneOf [sub .block, inOrder [opt (mark "-"), token literal], wordToken]]],
        inOrder [lifetime, opt (sub .bounds)],
        inOrder [
          oneOf [wordToken, metavariable], opt (sub .bounds), maybe [equals, sub .type]]]]
  | .bounds => inOrder [
      colon,
      sepBy1
        (oneOf [lifetime, inOrder [forLifetimes, sub .plainType], sub .plainType])
        (operator ["+"])]

/-- The grammar of Rust. -/
def grammar : Grammar Place Symbol where
  rule := rule
  start := .program
  context := ⟨false⟩
  gaps _ := gaps

end Mutagenesis.Syntax.Rust
