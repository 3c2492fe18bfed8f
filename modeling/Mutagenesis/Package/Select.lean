import Mutagenesis.Config.Check
import Mutagenesis.Discovery
import Mutagenesis.Files.Access
import Mutagenesis.Package.Detect

/-!
# The source files of a package

The files of a package are selected by the globs of the configuration. Those in a supported language
are read and searched for placeholders.
-/
namespace Mutagenesis

open Files (Address World)

/-- A source file with its placeholders. -/
structure SourceFile where
  /-- The path in the package. -/
  path : String
  language : Language
  text : String
  specs : List PromptSpec
  deriving DecidableEq, Repr

namespace Package

/-- Whether the globs select a path. -/
def isSelected (mutate ignore : List Glob.Pattern) (p : Path) : Bool :=
  match p.text? with
  | some text => Glob.selects mutate text && !Glob.selects ignore text
  | none => false

/-- The folder at which a package is found. -/
def folderOf (w : World) (root : Path) : Except Config.Fault Address :=
  let unreadable (fault : Files.Fault) : Config.Fault :=
    .unreadable .packageDirectory root.shown fault.message
  match w.list root with
  | .ok _ => (w.locate true root).mapError unreadable
  | .error fault => .error (unreadable fault)

/-- The paths of the selected files in a package, in order. -/
def selectFiles (w : World) (root : Path) (c : Config) : Except Config.Fault (List Path) := do
  let mutate ← Config.compileGlob c.mutate
  let ignore ← Config.compileGlob c.ignore
  let top ← folderOf w root
  let paths := (filesBelow w top).map fun names => (⟨Files.joined names⟩ : Path)
  return paths.filter (isSelected mutate ignore)

/-- The source file at a path in a package, or `none` when its language is not supported. -/
def readSource? (w : World) (root : Path) (c : Config) (p : Path) :
    Except Config.Fault (Option SourceFile) :=
  match Language.ofPath? p, p.text? with
  | some language, some name =>
      match w.readText (root.join p) with
      | .ok text =>
          .ok (some ⟨name, language, text, discover name text language c.maxLinesInPlaceholder⟩)
      | .error fault => .error (.unreadable .sourceFile name fault.message)
  | _, _ => .ok none

/-- The source files of a package. -/
def load (w : World) (root : Path) (c : Config) : Except Config.Fault (List SourceFile) := do
  let files ← (← selectFiles w root c).mapM (readSource? w root c)
  return files.filterMap id

/-- The folder for the outcome of a run when none is given. -/
def outputFolder (root : Path) : Path := root.join (.ofString "MUTATION_TESTING")

end Package

end Mutagenesis
