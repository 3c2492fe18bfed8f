import Mutagenesis.Json.Decode

/-!
# Run configuration

The parameters of one run. They are fixed when the run starts and written into its summary, from
which a replay reads them back.
-/
namespace Mutagenesis

/-- The parameters of a run. -/
structure Config where
  modelName : String
  temperature : Binary64
  maxTokens : Nat
  maxNrPrompts : Nat
  /-- Milliseconds between requests; zero sets no limit. -/
  rateLimit : Nat
  nrAttempts : Nat
  /-- The prompt template, by name or file. -/
  template : String
  systemPrompt : String
  /-- The glob of the files to mutate. -/
  mutate : String
  /-- The glob of the files to leave alone. -/
  ignore : String
  /-- Whether requests are spaced as in controlled experiments. -/
  benchmark : Bool
  /-- Only fragments that contain this text are mutated. -/
  mutateOnly : Option String
  /-- Only fragments on one of these lines are mutated. -/
  mutateOnlyLines : Option (List Nat)
  maxLinesInPlaceholder : Nat
  deriving DecidableEq, Repr

namespace Config

def standard : Config where
  modelName := "codellama-34b-instruct"
  temperature := .zero
  maxTokens := 250
  maxNrPrompts := 1250
  rateLimit := 0
  nrAttempts := 3
  template := "template.hb"
  systemPrompt := "SystemPrompt-MutationTestingExpert.txt"
  mutate := "**/*.\x7bjs,ts\x7d"
  ignore := ""
  benchmark := false
  mutateOnly := none
  mutateOnlyLines := none
  maxLinesInPlaceholder := 1

/-- The configuration as a JSON object; filters that are not set are left out. -/
def toJson (c : Config) : Json :=
  .obj ([("modelName", .str c.modelName), ("temperature", .float c.temperature),
    ("maxTokens", .nat c.maxTokens), ("maxNrPrompts", .nat c.maxNrPrompts),
    ("rateLimit", .nat c.rateLimit), ("nrAttempts", .nat c.nrAttempts),
    ("template", .str c.template), ("systemPrompt", .str c.systemPrompt),
    ("mutate", .str c.mutate), ("ignore", .str c.ignore), ("benchmark", .bool c.benchmark)] ++
    (c.mutateOnly.map fun s => ("mutateOnly", .str s)).toList ++
    (c.mutateOnlyLines.map fun ns => ("mutateOnlyLines", .arr (ns.map .nat))).toList ++
    [("maxLinesInPlaceHolder", .nat c.maxLinesInPlaceholder)])

/-- The fields of a configuration. -/
inductive Field where
  | modelName | temperature | maxTokens | maxNrPrompts | rateLimit | nrAttempts | template
  | systemPrompt | mutate | ignore | benchmark | mutateOnly | mutateOnlyLines
  | maxLinesInPlaceholder
  deriving DecidableEq

namespace Field

abbrev Value : Field → Type
  | modelName | template | systemPrompt | mutate | ignore => String
  | temperature => Binary64
  | maxTokens | maxNrPrompts | rateLimit | nrAttempts | maxLinesInPlaceholder => Nat
  | benchmark => Bool
  | mutateOnly => Option String
  | mutateOnlyLines => Option (List Nat)

def name : Field → String
  | modelName => "modelName"
  | temperature => "temperature"
  | maxTokens => "maxTokens"
  | maxNrPrompts => "maxNrPrompts"
  | rateLimit => "rateLimit"
  | nrAttempts => "nrAttempts"
  | template => "template"
  | systemPrompt => "systemPrompt"
  | mutate => "mutate"
  | ignore => "ignore"
  | benchmark => "benchmark"
  | mutateOnly => "mutateOnly"
  | mutateOnlyLines => "mutateOnlyLines"
  | maxLinesInPlaceholder => "maxLinesInPlaceHolder"

def decoder : (f : Field) → Json.Decoder f.Value
  | modelName | template | systemPrompt | mutate | ignore => Json.string
  | temperature => Json.double
  | maxTokens | nrAttempts => Json.u32
  | rateLimit => Json.u64
  | maxNrPrompts | maxLinesInPlaceholder => Json.count
  | benchmark => Json.boolean
  | mutateOnly => Json.nullable Json.string
  | mutateOnlyLines => Json.nullable (Json.listOf Json.count)

/-- The values of the fields that may be missing. -/
def fallback : (f : Field) → Option f.Value
  | ignore => some ""
  | benchmark => some false
  | mutateOnly => some none
  | mutateOnlyLines => some none
  | maxLinesInPlaceholder => some (1 : Nat)
  | _ => none

def all : List Field :=
  [modelName, temperature, maxTokens, maxNrPrompts, rateLimit, nrAttempts, template,
    systemPrompt, mutate, ignore, benchmark, mutateOnly, mutateOnlyLines, maxLinesInPlaceholder]

end Field

def shape : Json.Shape where
  Field := Field
  Value := Field.Value
  title := "struct Config"
  fields := Field.all
  name := Field.name
  decoder := Field.decoder
  fallback := Field.fallback

/-- Reads a configuration; the missing field that counts is the first in order. -/
def decoder : Json.Decoder Config := fun v => do
  let d ← shape.draft v
  let modelName ← shape.need d Field.modelName
  let temperature ← shape.need d Field.temperature
  let maxTokens ← shape.need d Field.maxTokens
  let maxNrPrompts ← shape.need d Field.maxNrPrompts
  let rateLimit ← shape.need d Field.rateLimit
  let nrAttempts ← shape.need d Field.nrAttempts
  let template ← shape.need d Field.template
  let systemPrompt ← shape.need d Field.systemPrompt
  let mutate ← shape.need d Field.mutate
  let ignore ← shape.need d Field.ignore
  let benchmark ← shape.need d Field.benchmark
  let mutateOnly ← shape.need d Field.mutateOnly
  let mutateOnlyLines ← shape.need d Field.mutateOnlyLines
  let maxLinesInPlaceholder ← shape.need d Field.maxLinesInPlaceholder
  return { modelName, temperature, maxTokens, maxNrPrompts, rateLimit, nrAttempts, template,
           systemPrompt, mutate, ignore, benchmark, mutateOnly, mutateOnlyLines,
           maxLinesInPlaceholder }

end Config

end Mutagenesis
