import Mutagenesis.Config.Basic
import Mutagenesis.Prompt.Template

/-!
# Prompts

A run can be narrowed to fragments that contain a text and to fragments on certain lines. A
fragment is skipped when either filter that is set rejects it. A prompt is the text sent for one
specification, with its number in the run. Numbers count from one, and a sequence never gives one
out twice.
-/
namespace Mutagenesis.PromptSpec

/-- Whether the fragment contains the text that is asked for. -/
def passesText (spec : PromptSpec) (config : Config) : Bool :=
  match config.mutateOnly with
  | none => true
  | some needle => Text.occurs needle.toList spec.orig.toList

/-- Whether the fragment covers one of the lines that are asked for. -/
def passesLines (spec : PromptSpec) (config : Config) : Bool :=
  match config.mutateOnlyLines with
  | none => true
  | some lines => lines.any spec.location.containsLine

def isSkipped (spec : PromptSpec) (config : Config) : Bool :=
  !(spec.passesText config && spec.passesLines config)

end Mutagenesis.PromptSpec

namespace Mutagenesis

/-- A text to send for a specification. -/
structure Prompt where
  id : Nat
  text : String
  spec : PromptSpec
  deriving DecidableEq, Repr

/-- The number of the next prompt. -/
structure PromptSequence where
  nextId : Nat
  deriving DecidableEq, Repr

namespace PromptSequence

def start : PromptSequence := ⟨1⟩

/-- The next prompt, and the sequence after it. -/
def create (s : PromptSequence) (text : String) (spec : PromptSpec) : Prompt × PromptSequence :=
  (⟨s.nextId, text, spec⟩, ⟨s.nextId + 1⟩)

end PromptSequence

end Mutagenesis
