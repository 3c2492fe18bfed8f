import Mutagenesis.Syntax.Reading
import Mutagenesis.Syntax.Script.Tokens

/-!
# The grammar of JavaScript and TypeScript

One grammar for the three dialects: plain scripts, scripts with types, and scripts with types and
elements. It generates programs as a context-free check sees them: names are not resolved, types
not compared, and operators not ranked, for only the span of an operand matters to discovery.

A chain such as `a.b(c).d` grows from its first operand; each call, access and assignment is a
step. Of the forms that begin alike the longer one is tried first: an arrow function before an
expression in parentheses, a block before a record display.
-/
namespace Mutagenesis.Syntax.Script

open Rule

/-- What a dialect has beyond plain scripts. -/
structure Dialect where
  /-- Type annotations and declarations of types. -/
  types : Bool
  /-- Elements in angle brackets. -/
  elements : Bool

/-- The symbols of the grammar. -/
inductive Symbol where
  | program | statement | declaration | block | condition | loopHeader | switchCase
  | sequence | expression | operand | chain | primary | constructed
  | arrow | arrowBody | callSignature | parameters | parameter | function | classForm | classBody
  | classMember | decorator | argumentList | template | list | record | property | propertyName
  | pattern | recordPattern | listPattern | moduleForm
  | element | elementPart | attribute | embedded
  | type | returnType | typeOperand | typePrimary | typeArguments | typeParameters | recordType
  | typeMember | tupleMember
  deriving DecidableEq

/-- Rules of this grammar need no context. -/
abbrev Clause := Rule Unit Symbol

/-- The word as the next token. -/
def keyword (text : String) : Clause := token (exactWord text)

/-- One of the words as the next token. -/
def keywords (texts : List String) : Clause := oneOf (texts.map keyword)

def comma : Clause := mark ","

/-- The end of a statement: a semicolon, or a place where none is needed. -/
def stop : Clause := oneOf [mark ";", lexeme fun cs => if endsStatement cs then some 0 else none]

/-- No line ends before the next token. -/
def sameLine : Clause := lexeme fun cs => if (afterGaps cs).1 then none else some 0

/-- The rule where the dialect has the feature, and nothing else where it has not. -/
def given (feature : Bool) (r : Clause) : Clause := if feature then r else fail

/-- The rule, if the dialect has the feature and the text matches. -/
def optGiven (feature : Bool) (r : Clause) : Clause := if feature then opt r else empty

/-- Items with commas between them, any of which may be left out. -/
def sparse (item : Clause) : Clause := inOrder [opt item, many (inOrder [comma, opt item])]

/-- Items with commas between them and perhaps one at the end. -/
def listed (item : Clause) : Clause := maybe [sepBy1 item comma, opt comma]

def braced (r : Clause) : Clause := inOrder [mark "\x7b", r, mark "\x7d"]

def nameToken : Clause := leaf .name name

def wordToken : Clause := token word

def textToken : Clause := inOrder [token text]

/-- The word as a modifier: another part of a member follows it. -/
def modifier (text : String) : Clause :=
  inOrder [
    keyword text,
    ahead (inOrder [
      skip,
      oneOf [
        lexeme word, lexeme Script.text, lexeme numeral,
        one fun c => "[#*\x7b".toList.contains c]])]

def modifiers (texts : List String) : Clause := many (oneOf (texts.map modifier))

/-- Accepts what may stand left of an assignment. -/
def isTarget : Kind → Bool
  | .name | .member | .assignable | .parenthesized | .display => true
  | _ => false

def anyKind : Kind → Bool := fun _ => true

/-- The steps of a chain that call or access something. -/
def accessSteps (d : Dialect) : List ((Kind → Bool) × Kind × Role × Clause) :=
  let calls : List Clause := [
    label .arguments (sub .argumentList),
    inOrder [
      mark "?.", optGiven d.types (sub .typeArguments), label .arguments (sub .argumentList)],
    given d.types (inOrder [
      sub .typeArguments, label .arguments (oneOf [sub .argumentList, sub .template])]),
    label .arguments (sub .template)]
  calls.map (fun r => (anyKind, Kind.call, Role.callee, r)) ++ selectors
where
  selectors : List ((Kind → Bool) × Kind × Role × Clause) :=
    [(anyKind, .member, .receiver, inOrder [
        oneOf [mark "?.", markNot "." "."], skip, opt (exactly "#"), lexeme word]),
      (anyKind, .assignable, .part, inOrder [
        opt (mark "?."), mark "[", sub .sequence, mark "]"])]

/-- The rules of the grammar for a dialect. -/
def rule (d : Dialect) : Symbol → Clause
  | .program => inOrder [opt (lexeme interpreterLine), many (sub .statement)]
  | .statement => oneOf [
      node .emptyStatement (mark ";"), sub .block,
      node (.conditional .ifThen) (inOrder [
        keyword "if", label .condition (sub .condition), sub .statement,
        maybe [keyword "else", sub .statement]]),
      node (.conditional .whileLoop) (inOrder [
        keyword "while", label .condition (sub .condition), sub .statement]),
      node (.conditional .doWhile) (inOrder [
        keyword "do", sub .statement, keyword "while", label .condition (sub .condition),
        opt stop]),
      form [
        keyword "for", opt (keyword "await"), mark "(", sub .loopHeader, mark ")",
        sub .statement],
      node (.conditional .forLoop) (inOrder [
        keyword "for", mark "(",
        oneOf [
          sub .declaration, inOrder [sub .sequence, mark ";"], node .emptyStatement (mark ";")],
        oneOf [
          label .condition (node .emptyStatement (mark ";")),
          inOrder [label .condition (sub .sequence), mark ";"]], opt (sub .sequence), mark ")",
        sub .statement]),
      form [keyword "switch", sub .condition, braced (many (sub .switchCase))],
      form [
        keyword "try", sub .block,
        maybe [
          keyword "catch",
          maybe [
            mark "(", sub .pattern, optGiven d.types (inOrder [mark ":", sub .type]), mark ")"],
          sub .block], maybe [keyword "finally", sub .block]],
      form [keyword "with", sub .condition, sub .statement],
      form [keywords ["break", "continue"], oneOf [stop, inOrder [nameToken, stop]]],
      form [keyword "return", oneOf [stop, inOrder [sub .sequence, stop]]],
      form [keyword "throw", sub .sequence, stop], form [keyword "debugger", stop],
      node .other (sub .moduleForm), sub .declaration, form [nameToken, mark ":", sub .statement],
      node .expressionStatement (inOrder [sub .sequence, stop])]
  | .declaration => oneOf [
      form [
        maybe [keyword "async", sameLine], keyword "function", opt (mark "*"), nameToken,
        sub .callSignature, sub .block],
      given d.types (form [
        maybe [keyword "async", sameLine], keyword "function", opt (mark "*"), nameToken,
        sub .callSignature, stop]),
      form [
        many (sub .decorator), optGiven d.types (keyword "abstract"), keyword "class", nameToken,
        sub .classBody],
      form [
        keywords ["var", "let", "const", "using"],
        sepBy1 (form [
          sub .pattern,
          optGiven d.types (inOrder [opt (mark "!"), mark ":", sub .type]),
          maybe [token (markAmong ["="]), sub .expression]]) comma, stop],
      given d.types (oneOf [
        form [
          keyword "interface", nameToken, opt (sub .typeParameters),
          maybe [keyword "extends", sepBy1 (sub .type) comma], sub .recordType],
        form [keyword "type", nameToken, opt (sub .typeParameters), mark "=", sub .type, stop],
        form [
          opt (keyword "const"), keyword "enum", nameToken,
          braced (listed (inOrder [sub .propertyName, maybe [mark "=", sub .expression]]))],
        form [
          keywords ["namespace", "module"], sameLine,
          oneOf [textToken, sepBy1 nameToken (mark ".")], oneOf [sub .block, stop]],
        form [
          keyword "declare", sameLine,
          oneOf [sub .declaration, inOrder [keyword "global", sub .block]]],
        form [
          keyword "import", nameToken, mark "=",
          oneOf [
            inOrder [keyword "require", mark "(", textToken, mark ")"],
            sepBy1 nameToken (mark ".")], stop]])]
  | .block => node .other (braced (many (sub .statement)))
  | .condition => node .parenthesized (inOrder [
      mark "(", sub .sequence, optGiven d.types (inOrder [mark ":", sub .type]), mark ")"])
  | .loopHeader => inOrder [
      oneOf [
        inOrder [
          keywords ["var", "let", "const", "using"], sub .pattern,
          maybe [mark "=", sub .operand]], sub .constructed, sub .pattern],
      keywords ["in", "of"], sub .sequence]
  | .switchCase => form [
      oneOf [inOrder [keyword "case", sub .sequence], keyword "default"], mark ":",
      many (sub .statement)]
  | .sequence => grow (sub .expression) (Steps.ofList [
      (anyKind, .other, .part, many1 (inOrder [comma, sub .expression]))])
  | .expression => grow (sub .operand) (Steps.ofList [
      (anyKind, .other, .part, inOrder [token binaryOperator, sub .operand]),
      (anyKind, .other, .part, inOrder [keywords ["in", "instanceof"], sub .operand]),
      (
        anyKind, .other, .part,
        given d.types (inOrder [
          sameLine,
          oneOf [
            inOrder [keyword "as", oneOf [keyword "const", sub .type]],
            inOrder [keyword "satisfies", sub .type]]])),
      (
        anyKind, .other, .part,
        inOrder [token (markAmong ["?"]), sub .expression, mark ":", sub .expression])])
  | .operand => oneOf [
      form [
        oneOf [inOrder [keyword "async", sameLine, nameToken], nameToken], token (markAmong ["=>"]), sub .arrowBody],
      inOrder [lexeme (bracketsBefore (if d.types then ["=>", ":"] else ["=>"])), sub .arrow],
      given d.types (inOrder [ahead (mark "<"), sub .arrow]),
      inOrder [
        ahead (inOrder [keyword "async", sameLine, oneOf [mark "(", mark "<"]]), sub .arrow],
      form [
        keyword "yield",
        opt (oneOf [inOrder [mark "*", sub .expression], inOrder [sameLine, sub .expression]])],
      form [token (markAmong ["!", "-", "+", "~", "++", "--"]), sub .operand],
      form [keywords ["typeof", "void", "delete", "await"], sub .operand],
      given (d.types && !d.elements) (form [mark "<", sub .type, mark ">", sub .operand]),
      sub .chain, sub .arrow,
      form [sub .recordPattern, token (markAmong ["="]), sub .expression]]
  | .chain => grow (sub .primary) (Steps.ofList (accessSteps d ++ [
      (anyKind, .assignable, .part, given d.types (inOrder [sameLine, markNot "!" "="])),
      (isTarget, .other, .part, inOrder [sameLine, token (markAmong ["++", "--"])]),
      (isTarget, .other, .part, inOrder [token assignmentOperator, sub .expression])]))
  | .primary => oneOf [
      leaf .other (Measure.oneOf [numeral, Script.text, Script.pattern]), sub .template,
      sub .function, sub .classForm,
      form [
        keyword "new",
        oneOf [
          inOrder [mark ".", keyword "target"],
          inOrder [
            sub .constructed, optGiven d.types (sub .typeArguments), opt (sub .argumentList)]]],
      node .other (keywords ["this", "super", "null", "true", "false"]),
      form [keyword "import", ahead (oneOf [mark "(", mark "."])], nameToken, sub .list,
      sub .record,
      inOrder [
        node .parenthesized (inOrder [
          mark "(", sub .sequence, optGiven d.types (inOrder [mark ":", sub .type]), mark ")"]),
        notAhead (inOrder [token (markAmong ["=>"])])],
      node .name (inOrder [mark "#", lexeme word]), given d.elements (sub .element)]
  | .constructed => grow (sub .primary) (Steps.ofList accessSteps.selectors)
  | .arrow => form [
      maybe [keyword "async", sameLine], sub .callSignature, token (markAmong ["=>"]),
      sub .arrowBody]
  | .arrowBody => oneOf [sub .block, sub .expression]
  | .callSignature => inOrder [
      optGiven d.types (sub .typeParameters), sub .parameters,
      optGiven d.types (inOrder [mark ":", sub .returnType])]
  | .parameters => form [mark "(", listed (sub .parameter), mark ")"]
  | .parameter => inOrder [
      many (sub .decorator),
      if d.types then
        inOrder [
          modifiers ["public", "private", "protected", "override", "readonly"],
          oneOf [sub .pattern, keyword "this"], opt (mark "?"), maybe [mark ":", sub .type]]
      else sub .pattern, maybe [token (markAmong ["="]), sub .expression]]
  | .function => form [
      maybe [keyword "async", sameLine], keyword "function", opt (mark "*"), opt nameToken,
      sub .callSignature, sub .block]
  | .classForm => form [many (sub .decorator), keyword "class", opt nameToken, sub .classBody]
  | .classBody => inOrder [
      optGiven d.types (sub .typeParameters),
      maybe [
        keyword "extends",
        oneOf [
          given d.types (inOrder [
            sub .chain, sub .typeArguments,
            ahead (oneOf [mark "\x7b", comma, keyword "implements"])]),
          sub .expression]],
      optGiven d.types (inOrder [keyword "implements", sepBy1 (sub .type) comma]),
      node .other (braced (many (sub .classMember)))]
  | .classMember =>
      let leading := inOrder [
        many (sub .decorator),
        modifiers (["static", "async", "get", "set", "accessor"] ++
          if d.types then
            ["public", "private", "protected", "abstract", "override", "readonly", "declare"]
          else []),
        opt (mark "*")]
      oneOf [
        mark ";", form [keyword "static", sub .block],
        form [
          leading, sub .propertyName, optGiven d.types (mark "?"), sub .callSignature,
          if d.types then oneOf [sub .block, stop] else sub .block],
        form [
          leading, sub .propertyName, optGiven d.types (oneOf [mark "?", mark "!"]),
          optGiven d.types (inOrder [mark ":", sub .type]),
          maybe [token (markAmong ["="]), sub .expression], stop],
        given d.types (form [modifiers ["static", "readonly"], sub .typeMember, stop])]
  | .decorator => form [
      mark "@",
      grow (oneOf [nameToken, sub .condition]) (Steps.ofList (accessSteps d))]
  | .argumentList => node .arguments (inOrder [
      mark "(",
      sparse (oneOf [form [mark "...", sub .expression], sub .expression]), mark ")"])
  | .template => form [
      exactly "\x60",
      many (oneOf [
        run fun c => c ≠ '\x60' && c ≠ '$' && c ≠ '\\',
        inOrder [exactly "\\", one fun _ => true],
        inOrder [exactly "$\x7b", sub .sequence, mark "\x7d"],
        inOrder [exactly "$", notAhead (exactly "\x7b")]]), exactly "\x60"]
  | .list => node .display (inOrder [
      mark "[",
      sparse (oneOf [form [mark "...", sub .expression], sub .expression]), mark "]"])
  | .record => node .display (braced (sparse (sub .property)))
  | .property => oneOf [
      form [mark "...", sub .expression],
      form [
        modifiers ["static", "async", "get", "set"], opt (mark "*"), sub .propertyName,
        sub .callSignature, sub .block], form [sub .propertyName, mark ":", sub .expression],
      nameToken]
  | .propertyName => oneOf [
      leaf .other (Measure.oneOf [numeral, Script.text, word]), form [mark "#", lexeme word],
      form [mark "[", sub .expression, mark "]"]]
  | .pattern => oneOf [
      form [mark "...", sub .pattern], sub .recordPattern, sub .listPattern, nameToken]
  | .recordPattern =>
      let preset := maybe [token (markAmong ["="]), sub .expression]
      node .display (braced (sparse (oneOf [
        form [mark "...", sub .constructed],
        form [sub .propertyName, mark ":", oneOf [sub .pattern, sub .constructed], preset],
        form [nameToken, preset]])))
  | .listPattern => node .display (inOrder [
      mark "[",
      sparse (form [
        oneOf [sub .pattern, sub .constructed],
        maybe [token (markAmong ["="]), sub .expression]]), mark "]"])
  | .moduleForm =>
      let exported := oneOf [wordToken, textToken]
      let specifier := inOrder [
        opt (given d.types (inOrder [
          keywords ["type", "typeof"], ahead wordToken,
          notAhead (inOrder [keyword "as", wordToken, notAhead (keyword "as")])])), exported,
        maybe [keyword "as", exported]]
      let specifiers := braced (listed specifier)
      let whole := inOrder [mark "*", keyword "as", exported]
      let source := inOrder [
        keyword "from", textToken, maybe [keywords ["with", "assert"], sub .record]]
      oneOf [
        inOrder [
          keyword "import", textToken, maybe [keywords ["with", "assert"], sub .record], stop],
        inOrder [
          keyword "import",
          optGiven d.types (inOrder [
            keywords ["type", "typeof"], notAhead (inOrder [keyword "from", textToken])]),
          oneOf [
            inOrder [nameToken, maybe [comma, oneOf [whole, specifiers]]], whole, specifiers],
          source, stop],
        inOrder [keyword "export", mark "*", maybe [keyword "as", exported], source, stop],
        inOrder [
          keyword "export", optGiven d.types (keyword "type"), specifiers, opt source, stop],
        inOrder [
          many (sub .decorator), keyword "export", keyword "default",
          oneOf [sub .declaration, inOrder [sub .expression, stop]]],
        inOrder [many (sub .decorator), keyword "export", sub .declaration],
        given d.types (inOrder [
          keyword "export",
          oneOf [
            inOrder [mark "=", sub .expression],
            inOrder [keyword "as", keyword "namespace", nameToken]], stop])]
  | .element =>
      let tag := inOrder [
        token elementName,
        oneOf [
          many1 (inOrder [mark ".", token elementName]),
          maybe [mark ":", token elementName]]]
      node .other (oneOf [
        inOrder [mark "<", mark ">", many (sub .elementPart), mark "<", mark "/", mark ">"],
        inOrder [
          mark "<", tag, optGiven d.types (sub .typeArguments), many (sub .attribute),
          oneOf [
            inOrder [mark "/", mark ">"],
            inOrder [mark ">", many (sub .elementPart), mark "<", mark "/", tag, mark ">"]]]])
  | .elementPart => oneOf [
      run fun c => ! ("\x7b\x7d<>&".toList.contains c), lexeme characterReference, sub .embedded,
      sub .element]
  | .attribute => oneOf [
      sub .embedded,
      form [
        token elementName, maybe [mark ":", token elementName],
        maybe [mark "=", oneOf [leaf .other attributeText, sub .embedded, sub .element]]]]
  | .embedded => node .other (braced (opt (oneOf [
      form [mark "...", sub .expression], sub .sequence])))
  | .type => node .other (oneOf [
      inOrder [
        ahead (lexeme (bracketsBefore ["=>"])), sub .parameters, mark "=>", sub .returnType],
      inOrder [sub .typeParameters, sub .parameters, mark "=>", sub .returnType],
      inOrder [
        opt (keyword "abstract"), keyword "new", opt (sub .typeParameters), sub .parameters,
        mark "=>", sub .type],
      inOrder [
        maybe [token (markAmong ["|", "&"])],
        sepBy1 (sub .typeOperand) (inOrder [token (markAmong ["|", "&"])]),
        maybe [
          sameLine, keyword "extends", sub .type, mark "?", sub .type, mark ":", sub .type]]])
  | .returnType => oneOf [
      inOrder [
        keyword "asserts", sameLine, oneOf [nameToken, keyword "this"],
        maybe [keyword "is", sub .type]],
      inOrder [oneOf [nameToken, keyword "this"], sameLine, keyword "is", sub .type], sub .type]
  | .typeOperand => oneOf [
      inOrder [keywords ["keyof", "readonly", "unique"], sub .typeOperand],
      inOrder [keyword "infer", nameToken, maybe [keyword "extends", sub .typeOperand]],
      inOrder [
        ahead (lexeme (bracketsBefore ["=>"])), sub .parameters, mark "=>", sub .returnType],
      inOrder [sub .typePrimary, many (inOrder [sameLine, mark "[", opt (sub .type), mark "]"])]]
  | .typePrimary => oneOf [
      inOrder [token (Measure.oneOf [numeral, Script.text])],
      inOrder [mark "-", lexeme numeral],
      inOrder [
        skip, exactly "\x60",
        many (oneOf [
          run fun c => c ≠ '\x60' && c ≠ '$', inOrder [exactly "$\x7b", sub .type, mark "\x7d"],
          inOrder [exactly "$", notAhead (exactly "\x7b")]]), exactly "\x60"],
      inOrder [
        keyword "typeof",
        oneOf [inOrder [keyword "import", mark "(", textToken, mark ")"], wordToken],
        many (inOrder [mark ".", opt (exactly "#"), wordToken]), opt (sub .typeArguments)],
      inOrder [
        keyword "import", mark "(", textToken, mark ")", many (inOrder [mark ".", wordToken]),
        opt (sub .typeArguments)], keywords ["void", "null", "this", "true", "false"],
      inOrder [sepBy1 nameToken (markNot "." "."), opt (sub .typeArguments)], sub .recordType,
      inOrder [mark "[", listed (sub .tupleMember), mark "]"],
      inOrder [mark "(", sub .type, mark ")"], inOrder [mark "?", sub .typeOperand]]
  | .typeArguments => form [mark "<", listed (sub .type), mark ">"]
  | .typeParameters => form [
      mark "<",
      listed (inOrder [
        modifiers ["const", "in", "out"], nameToken, maybe [keyword "extends", sub .type],
        maybe [mark "=", sub .type]]), mark ">"]
  | .recordType => node .other (braced (inOrder [
      opt (oneOf [mark ",", mark ";"]), many (inOrder [sub .typeMember, oneOf [mark ",", stop]])]))
  | .typeMember =>
      let sign := opt (oneOf [mark "+", mark "-"])
      oneOf [
        inOrder [opt (keyword "new"), sub .callSignature],
        inOrder [
          sign, opt (modifier "readonly"), mark "[",
          oneOf [
            inOrder [nameToken, mark ":", sub .type],
            inOrder [nameToken, keyword "in", sub .type, maybe [keyword "as", sub .type]]],
          mark "]", maybe [sign, mark "?"], maybe [mark ":", sub .type]],
        inOrder [
          modifiers [
            "readonly", "get", "set", "public", "private", "protected", "static", "override",
            "async"], sub .propertyName, opt (mark "?"),
          oneOf [sub .callSignature, maybe [mark ":", sub .type]]]]
  | .tupleMember => inOrder [
      opt (mark "..."), maybe [nameToken, opt (mark "?"), mark ":"], sub .type, opt (mark "?")]

/-- The grammar of a dialect. -/
def grammar (d : Dialect) : Grammar Unit Symbol where
  rule := rule d
  start := .program
  context := ()
  gaps _ := gaps

end Mutagenesis.Syntax.Script
