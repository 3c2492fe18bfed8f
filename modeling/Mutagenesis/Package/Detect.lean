import Mutagenesis.Files.World
import Mutagenesis.Text.Characters

/-!
# The files of a package

A package is a folder. Its files are those below the folder, files below folders of certain names
and behind links apart, in the order of their paths, name by name.
-/
namespace Mutagenesis.Package

open Files (Address World)

/-- The names of files and folders that no package counts as its own. -/
def skippedNames : List String :=
  [".git", ".hg", ".svn", "node_modules", ".venv", "venv", "__pycache__", ".tox", ".mypy_cache",
    ".pytest_cache", "target", "dist", "build", "coverage", ".next", ".nuxt", "MUTATION_TESTING",
    ".llm-cache"]

def isSkippedName (name : Bytes) : Bool := skippedNames.any fun s => Text.bytes s = name

/-- The names that lead from a folder to an address below it, the first name first. -/
def namesFrom? (top a : Address) : Option (List Bytes) :=
  if World.isWithin top a then some (a.take (a.length - top.length)).reverse else none

/-- The names that lead from a folder to the file of an entry, if it is one and none is skipped. -/
def fileBelow? (top : Address) (x : Address × Files.Entry) : Option (List Bytes) :=
  match x.2 with
  | .file _ => (namesFrom? top x.1).filter fun names => names.all fun n => !isSkippedName n
  | _ => none

/-- The files below a folder, in the order of their paths. -/
def filesBelow (w : World) (top : Address) : List (List Bytes) :=
  (w.entries.filterMap (fileBelow? top)).mergeSort (lexicalLe (lexicalLe fun a b => decide (a ≤ b)))

end Mutagenesis.Package
