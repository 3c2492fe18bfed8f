import Mutagenesis.Files.Path
import Mutagenesis.Syntax.Python.Grammar
import Mutagenesis.Syntax.Rust.Grammar
import Mutagenesis.Syntax.Script.Grammar

/-!
# Languages

The languages whose sources are mutated, each with its grammar and the extensions of its files. A
source is valid when the grammar generates it whole.
-/
namespace Mutagenesis

/-- A language of sources. -/
inductive Language where
  | python
  | rust
  | javascript
  | typescript
  | tsx
  deriving DecidableEq, Repr

namespace Language

/-- The syntax tree of a source, if it is valid. -/
def parse (language : Language) (source : String) : Option Syntax.Node :=
  let cs := source.toList
  match language with
  | .python => Syntax.Python.grammar.read cs
  | .rust => Syntax.Rust.grammar.read cs
  | .javascript => (Syntax.Script.grammar ⟨false, true⟩).read cs
  | .typescript => (Syntax.Script.grammar ⟨true, false⟩).read cs
  | .tsx => (Syntax.Script.grammar ⟨true, true⟩).read cs

/-- Whether a source is free of syntax errors. -/
def isValid (language : Language) (source : String) : Bool := (language.parse source).isSome

/-- The languages by extension. -/
def extensions : List (String × Language) :=
  [("py", .python), ("rs", .rust), ("js", .javascript), ("mjs", .javascript),
    ("cjs", .javascript), ("ts", .typescript), ("mts", .typescript), ("cts", .typescript),
    ("tsx", .tsx), ("jsx", .tsx)]

/-- The language of a file at a path. -/
def ofPath? (path : Path) : Option Language :=
  (path.extension?.bind Text.ofBytes?).bind fun name => extensions.lookup name

end Language

end Mutagenesis
