import Mutagenesis.Location

/-!
# Specifications and templates

A specification names the fragment that a prompt asks to replace and says what kind of fragment it
is. A template holds markers, a name in double or triple braces, for the code, the fragment and its
feature. They are filled one name after another, each in its triple form first; a marker in a value
that has been filled in is filled in turn when its name comes later.
-/
namespace Mutagenesis

/-- A fragment to replace. -/
structure PromptSpec where
  location : Location
  /-- The text at the location. -/
  orig : String
  /-- What the fragment is, in the words of the prompt. -/
  feature : String
  deriving DecidableEq, Repr

namespace PromptSpec

/-- What stands in the code of a prompt where the fragment was. -/
def placeholder : String := "<PLACEHOLDER>"

/-- The source with the placeholder at the location. -/
def codeWithPlaceholder (spec : PromptSpec) (source : String) : Option String :=
  splice source spec.location placeholder

end PromptSpec

/-- A name between opening and closing braces, as many as given. -/
def marker (braces : Nat) (name : String) : List Char :=
  List.replicate braces '\x7b' ++ name.toList ++ List.replicate braces '\x7d'

/-- The text with both markers of a name replaced by its value. -/
def fill (text : List Char) (field : String × String) : List Char :=
  let (name, value) := field
  let tripled := Text.replace (marker 3 name) value.toList text
  Text.replace (marker 2 name) value.toList tripled

/-- The names of a template and their values. -/
def PromptSpec.fields (spec : PromptSpec) (code : String) : List (String × String) :=
  [("code", code), ("orig", spec.orig), ("feature", spec.feature)]

/-- The template filled with the code and what the specification says. -/
def render (template code : String) (spec : PromptSpec) : String :=
  String.ofList ((spec.fields code).foldl fill template.toList)

end Mutagenesis
