import Mutagenesis.Syntax.Tree

/-!
# Grammar rules

A grammar is data: rules over the symbols `σ`, read in a context `ε` such as the indentation of the
current block. A rule is a parsing expression. Of two alternatives the first that matches is
taken, and repetition takes as much as it can. Left recursion, as in a chain of calls and member
accesses, is written with `grow`: a base and the steps that each wrap what has been read so far.
Blanks and comments are passed over only where a rule says so with `skip`.
-/
namespace Mutagenesis.Syntax

mutual

/-- A parsing expression. -/
inductive Rule (ε σ : Type) where
  /-- Matches nothing and consumes nothing. -/
  | empty
  /-- Matches nowhere. -/
  | fail
  /-- Consumes the number of characters that the function answers. -/
  | take (length : ε → List Char → Option Nat)
  /-- Passes over blanks and comments. -/
  | skip
  | seq (first next : Rule ε σ)
  | alt (first other : Rule ε σ)
  | many (item : Rule ε σ)
  /-- Succeeds where the rule matches, and consumes nothing. -/
  | ahead (rule : Rule ε σ)
  /-- Succeeds where the rule does not match, and consumes nothing. -/
  | notAhead (rule : Rule ε σ)
  | sub (symbol : σ)
  /-- Reads in the context that the function answers. -/
  | within (change : ε → List Char → Option ε) (rule : Rule ε σ)
  /-- Makes one node of what the rule reads, starting at its first token. -/
  | node (kind : Kind) (rule : Rule ε σ)
  /-- Gives the nodes that the rule reads their role. -/
  | label (role : Role) (rule : Rule ε σ)
  /-- Reads the rule, if the last node it reads is of an accepted kind. -/
  | ending (accepts : Kind → Bool) (rule : Rule ε σ)
  /-- Reads the base, then takes exactly one step. -/
  | once (base : Rule ε σ) (steps : Steps ε σ)
  /-- Reads the base, then takes steps as long as one matches. -/
  | grow (base : Rule ε σ) (steps : Steps ε σ)

/-- The ways to go on from what a growing rule has read. -/
inductive Steps (ε σ : Type) where
  | done
  /-- On a node of an accepted kind, reads the rule and makes a node of both, in which the earlier
  node has the role. -/
  | or (accepts : Kind → Bool) (kind : Kind) (role : Role) (rule : Rule ε σ) (more : Steps ε σ)

end

/-- What stands between tokens: the number of characters of a blank or a comment. -/
structure Gap where
  isComment : Bool
  length : Nat

/-- A grammar: its rules, its start and what may stand between tokens. -/
structure Grammar (ε σ : Type) where
  rule : σ → Rule ε σ
  start : σ
  context : ε
  gaps : ε → List Char → List Gap

namespace Rule

variable {ε σ : Type}

/-- The rules one after another. -/
def inOrder : List (Rule ε σ) → Rule ε σ
  | [] => empty
  | [r] => r
  | r :: rules => seq r (inOrder rules)

/-- The first alternative that matches. -/
def oneOf : List (Rule ε σ) → Rule ε σ
  | [] => fail
  | [r] => r
  | r :: rules => alt r (oneOf rules)

/-- The rule where it matches, else nothing. -/
def opt (r : Rule ε σ) : Rule ε σ := alt r empty

/-- The rules one after another, or nothing. -/
def maybe (rules : List (Rule ε σ)) : Rule ε σ := opt (inOrder rules)

/-- The rule once or more often. -/
def many1 (r : Rule ε σ) : Rule ε σ := seq r (many r)

/-- One node of the rules in order. -/
def form (rules : List (Rule ε σ)) : Rule ε σ := node .other (inOrder rules)

/-- Items with the separator between each two, at least one. -/
def sepBy1 (item sep : Rule ε σ) : Rule ε σ := seq item (many (seq sep item))

/-- Consumes the number of characters that the function answers for the text alone. -/
def lexeme (length : List Char → Option Nat) : Rule ε σ := take fun _ cs => length cs

/-- One character of a class. -/
def one (p : Char → Bool) : Rule ε σ :=
  lexeme fun
    | [] => none
    | c :: _ => if p c then some 1 else none

/-- One or more characters of a class. -/
def run (p : Char → Bool) : Rule ε σ :=
  lexeme fun cs =>
    let n := (cs.takeWhile p).length
    if n = 0 then none else some n

/-- The characters of the text, right here. -/
def exactly (text : String) : Rule ε σ :=
  let mark := text.toList
  lexeme fun cs => if mark.isPrefixOf cs then some mark.length else none

/-- The characters of the text as the next token. -/
def mark (text : String) : Rule ε σ := seq skip (exactly text)

/-- The text as the next token, unless one of the characters follows it. -/
def markNot (text followers : String) : Rule ε σ :=
  inOrder [mark text, notAhead (one fun c => followers.toList.contains c)]

/-- The lexeme as the next token. -/
def token (length : List Char → Option Nat) : Rule ε σ := seq skip (lexeme length)

/-- A token that is one node of its own. -/
def leaf (kind : Kind) (length : List Char → Option Nat) : Rule ε σ := node kind (lexeme length)

end Rule

namespace Steps

variable {ε σ : Type}

/-- The steps in order. -/
def ofList : List ((Kind → Bool) × Kind × Role × Rule ε σ) → Steps ε σ
  | [] => done
  | (accepts, kind, role, rule) :: more => or accepts kind role rule (ofList more)

end Steps

end Mutagenesis.Syntax
