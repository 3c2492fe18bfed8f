import Mutagenesis.Run.Artifacts

/-!
# Replayed answers

A replay answers prompts from the records of an earlier run. Prompts of the same text are answered
in the order in which their records were numbered, and no record answers twice.
-/
namespace Mutagenesis

open Files (World)

/-- The records that have not been given out yet, and the rest of a recorded run. -/
structure Recording where
  config : Config
  records : List PromptRecord
  deriving DecidableEq, Repr

namespace Recording

/-- Reads a recorded run. -/
def load (w : World) (folder : Path) : Except ArtifactFault Recording := do
  let summary ← Artifacts.loadSummary w folder
  let records ← Artifacts.loadRecords w folder
  return ⟨summary.config, records⟩

/-- The outcome of the first record of a text, and the other records. -/
def take? (text : String) : List PromptRecord → Option (Outcome × List PromptRecord)
  | [] => none
  | r :: rs =>
      if r.text = text then some (r.outcome, rs)
      else (take? text rs).map fun (outcome, rest) => (outcome, r :: rest)

/-- How much of a prompt is told when it has no record. -/
def headLength : Nat := 60

/-- The answer to a prompt, and the records left. -/
def answer (text : String) (records : List PromptRecord) :
    Except Failure Answer × List PromptRecord :=
  match take? text records with
  | some (.completed answer, rest) => (.ok answer, rest)
  | some (.failed, rest) => (.error .recorded, rest)
  | none => (.error (.unrecorded (String.ofList (text.toList.take headLength))), records)

end Recording

/-- The model that replays a recorded run. -/
def Model.replay (c : Config) : Model (List PromptRecord) where
  profile := c.profile ""
  query prompt _ s :=
    let (outcome, records) := Recording.answer prompt s.2
    (outcome, s.1, records)
  counter _ := .zero

end Mutagenesis
