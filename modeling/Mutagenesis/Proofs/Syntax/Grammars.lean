import Mutagenesis.Proofs.Syntax.Shapes
import Mutagenesis.Syntax.Language

/-!
# Shapes of the grammars

For each grammar a table of what its symbols make, which the grammar is checked against symbol by
symbol. An operand and what is built from operands is one node, and a lone semicolon is made only
where a statement may stand.
-/
namespace Mutagenesis

open Syntax (Ask Count Node)

namespace Syntax.Script

/-- What the symbols of scripts make. -/
def makes : Ask → Symbol → Count
  | .solid, .condition | .solid, .sequence | .solid, .expression | .solid, .operand
  | .solid, .chain | .solid, .primary | .solid, .constructed | .solid, .arrow
  | .solid, .function | .solid, .classForm | .solid, .template | .solid, .list
  | .solid, .record | .solid, .recordPattern | .solid, .element => .single
  | .solid, _ | .void, .program | .void, .statement => .any
  | _, _ => .nothing

theorem shapes (d : Dialect) : (grammar d).Shapes makes where
  respects a symbol := by
    rcases d with ⟨_ | _, _ | _⟩ <;> cases a <;> cases symbol <;> decide +kernel
  every symbol := by
    rcases d with ⟨_ | _, _ | _⟩ <;> cases symbol <;> decide +kernel

end Syntax.Script

namespace Syntax.Python

/-- What the symbols of Python make. -/
def makes : Ask → Symbol → Count
  | .solid, .expressions | .solid, .expression | .solid, .disjunction | .solid, .inversion
  | .solid, .comparison | .solid, .arithmetic | .solid, .operand | .solid, .chain | .solid, .atom
  | .solid, .parenthesized | .solid, .element | .solid, .yielded | .solid, .text => .single
  | .solid, _ => .any
  | _, _ => .nothing

theorem shapes : grammar.Shapes makes where
  respects a symbol := by cases a <;> cases symbol <;> decide +kernel
  every symbol := by cases symbol <;> decide +kernel

end Syntax.Python

namespace Syntax.Rust

/-- What the symbols of Rust make. -/
def makes : Ask → Symbol → Count
  | .solid, .block | .solid, .blockLike | .solid, .ifForm | .solid, .condition
  | .solid, .expression | .solid, .operand | .solid, .chain | .solid, .primary | .solid, .path
  | .solid, .parenthesized | .solid, .list | .solid, .macroCall => .single
  | .solid, _ | .void, .program | .void, .statement | .void, .declaration | .void, .item
  | .void, .members => .any
  | _, _ => .nothing

theorem shapes : grammar.Shapes makes where
  respects a symbol := by cases a <;> cases symbol <;> decide +kernel
  every symbol := by cases symbol <;> decide +kernel

end Syntax.Rust

/-- The nodes of the tree of a source are shaped, whatever the language. -/
theorem Language.shaped_of_parse {language : Language} {source : String} {tree : Node}
    (h : language.parse source = some tree) : ∀ n ∈ tree.preorder, n.Shaped := by
  cases language with
  | python => exact Syntax.Grammar.shaped_of_read Syntax.Python.shapes h
  | rust => exact Syntax.Grammar.shaped_of_read Syntax.Rust.shapes h
  | javascript | typescript | tsx => exact Syntax.Grammar.shaped_of_read (Syntax.Script.shapes _) h

end Mutagenesis
