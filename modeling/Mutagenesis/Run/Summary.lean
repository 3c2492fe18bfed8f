import Mutagenesis.Config.Basic
import Mutagenesis.Model.Basic
import Mutagenesis.Mutant.Candidate

/-!
# Run summaries

The counts of a run and the configuration it was made with. Every prompt and every candidate is
counted once, under what became of it.
-/
namespace Mutagenesis

/-- The counts of a run. -/
structure RunSummary where
  nrPrompts : Nat
  nrCandidates : Nat
  nrInvalid : Nat
  nrIdentical : Nat
  nrDuplicate : Nat
  nrMutants : Nat
  /-- The specifications for which no prompt was sent. -/
  nrSkipped : Nat
  nrQueryFailed : Nat
  nrReplayMissing : Nat
  usage : Usage
  failures : FailureCounter
  config : Config
  deriving DecidableEq, Repr

namespace RunSummary

/-- The summary of a run that has not begun. -/
def start (config : Config) : RunSummary where
  nrPrompts := 0
  nrCandidates := 0
  nrInvalid := 0
  nrIdentical := 0
  nrDuplicate := 0
  nrMutants := 0
  nrSkipped := 0
  nrQueryFailed := 0
  nrReplayMissing := 0
  usage := .zero
  failures := .zero
  config := config

def addUsage (s : RunSummary) (u : Usage) : RunSummary := { s with usage := s.usage.add u }

def setFailures (s : RunSummary) (c : FailureCounter) : RunSummary := { s with failures := c }

/-- Counts a candidate. -/
def addCandidate (s : RunSummary) (c : Candidate) : RunSummary :=
  let s := { s with nrCandidates := s.nrCandidates + 1 }
  match c.classification with
  | .valid => { s with nrMutants := s.nrMutants + 1 }
  | .invalid => { s with nrInvalid := s.nrInvalid + 1 }
  | .identical => { s with nrIdentical := s.nrIdentical + 1 }
  | .duplicate => { s with nrDuplicate := s.nrDuplicate + 1 }

def toJson (s : RunSummary) : Json :=
  .obj [("nrPrompts", .nat s.nrPrompts), ("nrCandidates", .nat s.nrCandidates),
    ("nrSyntacticallyInvalid", .nat s.nrInvalid), ("nrIdentical", .nat s.nrIdentical),
    ("nrDuplicate", .nat s.nrDuplicate), ("nrMutants", .nat s.nrMutants),
    ("nrSkipped", .nat s.nrSkipped), ("nrQueryFailed", .nat s.nrQueryFailed),
    ("nrReplayMissing", .nat s.nrReplayMissing),
    ("totalPromptTokens", .nat s.usage.promptTokens),
    ("totalCompletionTokens", .nat s.usage.completionTokens),
    ("totalTokens", .nat s.usage.totalTokens), ("nrRetries", .nat s.failures.nrRetries),
    ("nrFailures", .nat s.failures.nrFailures), ("metaInfo", s.config.toJson)]

/-- The fields of a summary. -/
inductive Field where
  | nrPrompts | nrCandidates | nrInvalid | nrIdentical | nrDuplicate | nrMutants | nrSkipped
  | nrQueryFailed | nrReplayMissing | promptTokens | completionTokens | totalTokens | nrRetries
  | nrFailures | config
  deriving DecidableEq

namespace Field

abbrev Value : Field → Type
  | config => Config
  | _ => Nat

def name : Field → String
  | nrPrompts => "nrPrompts"
  | nrCandidates => "nrCandidates"
  | nrInvalid => "nrSyntacticallyInvalid"
  | nrIdentical => "nrIdentical"
  | nrDuplicate => "nrDuplicate"
  | nrMutants => "nrMutants"
  | nrSkipped => "nrSkipped"
  | nrQueryFailed => "nrQueryFailed"
  | nrReplayMissing => "nrReplayMissing"
  | promptTokens => "totalPromptTokens"
  | completionTokens => "totalCompletionTokens"
  | totalTokens => "totalTokens"
  | nrRetries => "nrRetries"
  | nrFailures => "nrFailures"
  | config => "metaInfo"

def decoder : (f : Field) → Json.Decoder f.Value
  | nrPrompts | nrCandidates | nrInvalid | nrIdentical | nrDuplicate | nrMutants | nrSkipped
  | nrQueryFailed | nrReplayMissing => Json.count
  | promptTokens | completionTokens | totalTokens => Json.u64
  | nrRetries | nrFailures => Json.u32
  | config => Config.decoder

/-- The counts that older summaries lack are zero. -/
def fallback : (f : Field) → Option f.Value
  | nrRetries | nrFailures => some (0 : Nat)
  | _ => none

def all : List Field :=
  [nrPrompts, nrCandidates, nrInvalid, nrIdentical, nrDuplicate, nrMutants, nrSkipped,
    nrQueryFailed, nrReplayMissing, promptTokens, completionTokens, totalTokens, nrRetries,
    nrFailures, config]

end Field

def shape : Json.Shape where
  Field := Field
  Value := Field.Value
  title := "struct RunSummary"
  fields := Field.all
  name := Field.name
  decoder := Field.decoder
  fallback := Field.fallback

def decoder : Json.Decoder RunSummary := fun v => do
  let d ← shape.draft v
  let nrPrompts ← shape.need d Field.nrPrompts
  let nrCandidates ← shape.need d Field.nrCandidates
  let nrInvalid ← shape.need d Field.nrInvalid
  let nrIdentical ← shape.need d Field.nrIdentical
  let nrDuplicate ← shape.need d Field.nrDuplicate
  let nrMutants ← shape.need d Field.nrMutants
  let nrSkipped ← shape.need d Field.nrSkipped
  let nrQueryFailed ← shape.need d Field.nrQueryFailed
  let nrReplayMissing ← shape.need d Field.nrReplayMissing
  let promptTokens ← shape.need d Field.promptTokens
  let completionTokens ← shape.need d Field.completionTokens
  let totalTokens ← shape.need d Field.totalTokens
  let nrRetries ← shape.need d Field.nrRetries
  let nrFailures ← shape.need d Field.nrFailures
  let config ← shape.need d Field.config
  return { nrPrompts, nrCandidates, nrInvalid, nrIdentical, nrDuplicate, nrMutants, nrSkipped,
           nrQueryFailed, nrReplayMissing,
           usage := ⟨promptTokens, completionTokens, totalTokens⟩,
           failures := ⟨nrRetries, nrFailures⟩, config }

end RunSummary

end Mutagenesis
