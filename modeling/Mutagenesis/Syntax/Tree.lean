/-!
# Syntax trees

A tree holds what discovery asks of it: which nodes are statements with a condition, which are
calls and member accesses, which part of its parent a node is, and where it stands. Positions are
byte offsets into the source; the end is exclusive. Tokens are no nodes, and comments are: one may
stand among the children of any node.
-/
namespace Mutagenesis.Syntax

/-- The statements and expressions that a condition governs. -/
inductive Conditional where
  | ifThen
  | elseIf
  | whileLoop
  | doWhile
  | forLoop
  deriving DecidableEq, Repr

/-- What a node is, as far as discovery or the grammar itself tells nodes apart. -/
inductive Kind where
  | conditional (c : Conditional)
  /-- An expression in one pair of parentheses. -/
  | parenthesized
  /-- An expression that stands as a statement. -/
  | expressionStatement
  /-- A lone semicolon. -/
  | emptyStatement
  | comment
  | call
  /-- Access to a named member. -/
  | member
  /-- Access to an element, or another expression that may be assigned to. -/
  | assignable
  | name
  /-- A list or record display, which may also be assigned to. -/
  | display
  | arguments
  | other
  deriving DecidableEq, Repr

/-- Which part of its parent a node is. -/
inductive Role where
  | part
  | condition
  | callee
  | receiver
  | arguments
  deriving DecidableEq, Repr

/-- A node of a syntax tree. -/
inductive Node where
  | mk (kind : Kind) (role : Role) (start stop : Nat) (children : List Node)
  deriving Repr

namespace Node

def kind : Node → Kind
  | mk k _ _ _ _ => k

def role : Node → Role
  | mk _ r _ _ _ => r

/-- The offset of the node's first byte. -/
def start : Node → Nat
  | mk _ _ s _ _ => s

/-- The offset after the node's last byte. -/
def stop : Node → Nat
  | mk _ _ _ e _ => e

def children : Node → List Node
  | mk _ _ _ _ cs => cs

/-- The same node as another part of its parent; a comment stays a comment. -/
def withRole (role : Role) : Node → Node
  | mk k r s e cs => mk k (if k = .comment then r else role) s e cs

/-- The first child with the role. -/
def child? (n : Node) (role : Role) : Option Node :=
  n.children.find? fun c => c.role = role

mutual

/-- The node and all below it, each before its children, children in order. -/
def preorder : Node → List Node
  | mk k r s e cs => mk k r s e cs :: preorderAll cs

/-- The nodes of several trees in turn. -/
def preorderAll : List Node → List Node
  | [] => []
  | n :: ns => preorder n ++ preorderAll ns

end

end Node

end Mutagenesis.Syntax
