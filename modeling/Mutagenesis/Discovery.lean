import Mutagenesis.Prompt.Template
import Mutagenesis.Syntax.Language
import Mutagenesis.Text.Characters

/-!
# Discovery of placeholders

The fragments of a source that prompts ask to replace: the conditions of conditional statements and
loops, and of each call its callee, its receiver and its arguments. `Node.targets` lists them for
one node; `discover` goes over all nodes in pre-order, leaves out what spans too many lines, keeps
the first of equal spans and sorts by position.
-/
namespace Mutagenesis

open Syntax (Node Kind Role Conditional)

/-- What prompts call a condition. -/
def Syntax.Conditional.feature : Conditional → String
  | .ifThen => "if condition"
  | .elseIf => "elif condition"
  | .whileLoop => "while condition"
  | .doWhile => "do-while condition"
  | .forLoop => "for condition"

namespace Syntax.Node

/-- A condition without what belongs to its statement: of an expression in parentheses or with a
semicolon the first child, and of a lone semicolon nothing. -/
def unwrapCondition (n : Node) : Option Node :=
  match n.kind with
  | .parenthesized | .expressionStatement => n.children.head?
  | .emptyStatement => none
  | _ => some n

/-- The fragments to replace at one node, with their features. -/
def targets (n : Node) : List (Node × String) :=
  match n.kind with
  | .conditional c =>
      (((n.child? .condition).bind unwrapCondition).map fun t => (t, c.feature)).toList
  | .call =>
      let callee := (n.child? .callee).toList
      let receiver := callee.flatMap fun f =>
        if f.kind = .member then (f.child? .receiver).toList else []
      callee.map (·, "callee") ++ receiver.map (·, "call receiver") ++
        (n.child? .arguments).toList.map (·, "call arguments")
  | _ => []

/-- The location of a node, if its span fits the source. -/
def location? (file : String) (source : List Char) (n : Node) : Option Location := do
  let start ← positionOf source n.start
  let stop ← positionOf source n.stop
  return .between file start stop

/-- The text of a node. -/
def text? (source : List Char) (n : Node) : Option String := do
  let (_, rest) ← Text.cut n.start source
  let (own, _) ← Text.cut (n.stop - n.start) rest
  return String.ofList own

/-- The specification of a target. -/
def spec? (file : String) (source : List Char) (target : Node × String) : Option PromptSpec := do
  let location ← target.1.location? file source
  let orig ← target.1.text? source
  return ⟨location, orig, target.2⟩

end Syntax.Node

namespace PromptSpec

/-- Adds a specification unless it spans too many lines or one of its location is there. -/
def addTo (maxLines : Nat) (specs : List PromptSpec) (spec : PromptSpec) : List PromptSpec :=
  if maxLines < spec.location.nrLines then specs
  else if specs.any fun s => s.location = spec.location then specs
  else specs ++ [spec]

/-- The order of positions: by start, then by end, lines before columns. -/
def positionLe (a b : PromptSpec) : Bool :=
  let key (s : PromptSpec) :=
    [s.location.startLine, s.location.startColumn, s.location.endLine, s.location.endColumn]
  lexicalLe Nat.ble (key a) (key b)

end PromptSpec

/-- The specifications of a tree of the source, in the order of their positions. -/
def specsOfTree (file : String) (source : List Char) (tree : Node) (maxLines : Nat) :
    List PromptSpec :=
  let found := tree.preorder.flatMap Node.targets
  let specs := (found.filterMap (Node.spec? file source)).foldl (PromptSpec.addTo maxLines) []
  specs.mergeSort PromptSpec.positionLe

/-- The specifications of a source; there are none when it does not parse. -/
def discover (file : String) (source : String) (language : Language) (maxLines : Nat) :
    List PromptSpec :=
  match language.parse source with
  | none => []
  | some tree => specsOfTree file source.toList tree maxLines

end Mutagenesis
