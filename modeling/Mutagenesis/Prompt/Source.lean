import Mutagenesis.Config.Fault
import Mutagenesis.Files.Access
import Mutagenesis.Prompt.Builtin

/-!
# Where a template comes from

A template is named by a built-in name or by a path. A path that cannot be read still names the
built-in template whose name is its last part.
-/
namespace Mutagenesis

/-- The built-in template that the last name of a path names. -/
def builtinAtEnd? (p : Path) : Option String :=
  (p.fileName?.bind Text.ofBytes?).bind builtinTemplate?

/-- The text of the template of a name. -/
def templateText (w : Files.World) (name : String) : Except Config.Fault String :=
  match builtinTemplate? name with
  | some text => .ok text
  | none =>
      let path := Path.ofString name
      match w.readText path, builtinAtEnd? path with
      | .ok text, _ => .ok text
      | .error _, some text => .ok text
      | .error fault, none => .error (.unreadable .template name fault.message)

end Mutagenesis
