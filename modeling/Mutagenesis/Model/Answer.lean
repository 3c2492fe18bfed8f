import Mutagenesis.Json.Decode

/-!
# Answers

What a model answers to one prompt: completions without repeats, in order, and the tokens that an
endpoint counts for it.
-/
namespace Mutagenesis

/-- Counts of tokens. -/
structure Usage where
  promptTokens : Nat
  completionTokens : Nat
  totalTokens : Nat
  deriving DecidableEq, Repr

namespace Usage

def zero : Usage := ⟨0, 0, 0⟩

/-- The sums of the counts. -/
def add (u v : Usage) : Usage :=
  ⟨u.promptTokens + v.promptTokens, u.completionTokens + v.completionTokens,
    u.totalTokens + v.totalTokens⟩

def toJson (u : Usage) : Json :=
  .obj [("prompt_tokens", .nat u.promptTokens), ("completion_tokens", .nat u.completionTokens),
    ("total_tokens", .nat u.totalTokens)]

/-- The fields of a usage. -/
inductive Field where
  | promptTokens | completionTokens | totalTokens
  deriving DecidableEq

def Field.name : Field → String
  | promptTokens => "prompt_tokens"
  | completionTokens => "completion_tokens"
  | totalTokens => "total_tokens"

def shape : Json.Shape where
  Field := Field
  Value _ := Nat
  title := "struct Usage"
  fields := [.promptTokens, .completionTokens, .totalTokens]
  name := Field.name
  decoder _ := Json.u64
  fallback _ := none

def decoder : Json.Decoder Usage := fun v => do
  let d ← shape.draft v
  let promptTokens ← shape.need d Field.promptTokens
  let completionTokens ← shape.need d Field.completionTokens
  let totalTokens ← shape.need d Field.totalTokens
  return { promptTokens, completionTokens, totalTokens }

end Usage

/-- The answer to a prompt. -/
structure Answer where
  completions : List String
  usage : Usage
  deriving DecidableEq, Repr

namespace Answer

/-- The texts without those that repeat an earlier one, after the texts seen before them. -/
def distinctFrom (seen : List String) : List String → List String
  | [] => []
  | text :: texts =>
      if seen.contains text then distinctFrom seen texts
      else text :: distinctFrom (text :: seen) texts

/-- The answer of the choices that an endpoint offers. -/
def ofChoices (choices : List String) (usage : Usage) : Answer := ⟨distinctFrom [] choices, usage⟩

def toJson (a : Answer) : Json :=
  .obj [("completions", .strs a.completions), ("usage", a.usage.toJson)]

/-- The fields of an answer. -/
inductive Field where
  | completions | usage
  deriving DecidableEq

namespace Field

abbrev Value : Field → Type
  | completions => List String
  | usage => Usage

def name : Field → String
  | completions => "completions"
  | usage => "usage"

def decoder : (f : Field) → Json.Decoder f.Value
  | completions => Json.listOf Json.string
  | usage => Usage.decoder

/-- An answer without a usage has used nothing. -/
def fallback : (f : Field) → Option f.Value
  | completions => none
  | usage => some Usage.zero

end Field

def shape : Json.Shape where
  Field := Field
  Value := Field.Value
  title := "struct QueryResult"
  fields := [.completions, .usage]
  name := Field.name
  decoder := Field.decoder
  fallback := Field.fallback

def decoder : Json.Decoder Answer := fun v => do
  let d ← shape.draft v
  let completions ← shape.need d Field.completions
  let usage ← shape.need d Field.usage
  return { completions, usage }

end Answer

end Mutagenesis
