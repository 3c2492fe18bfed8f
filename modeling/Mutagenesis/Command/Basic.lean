import Mutagenesis.Command.Scan
import Mutagenesis.Config.Basic
import Mutagenesis.Config.LineList
import Mutagenesis.Files.Path
import Mutagenesis.Model.Options

/-!
# Commands

The two commands: to generate mutants for a package, and to show the summary of a finished run.
-/
namespace Mutagenesis

/-- What `generate` is told. -/
structure GenerateOrder where
  package : Path
  config : Config
  /-- The lines to which a run is narrowed, as they are written. -/
  lineList : Option String
  isCached : Bool
  cacheFolder : Path
  replay : Option Path
  /-- The providers to prefer, as they are written. -/
  providers : Option String
  output : Option Path
  asJson : Bool
  isQuiet : Bool

/-- What `summary` is told. -/
structure SummaryOrder where
  folder : Path
  /-- The package against which the mutants are shown. -/
  mutantsRoot : Option Path
  asJson : Bool

/-- What the program is told to do. -/
inductive Command where
  | generate (order : GenerateOrder)
  | summary (order : SummaryOrder)

namespace Command

/-- The switch that both commands and the program itself take. -/
def verbose : OptionRule := .letterSwitch "verbose" 'v'

def generateRules : List OptionRule :=
  [verbose, .orVariable "template" .text "LLM_MUTATOR_TEMPLATE",
    .orVariable "system-prompt" .text "LLM_MUTATOR_SYSTEM_PROMPT",
    .orVariable "model" .text "LLM_MUTATOR_MODEL", .switch "no-caching",
    .orVariable "cache-dir" .path "LLM_MUTATOR_CACHE_DIR", .value "mutate" .text,
    .value "ignore" .text, .orVariable "temperature" .double "LLM_MUTATOR_TEMPERATURE",
    .orVariable "rate-limit" .u64 "LLM_MUTATOR_RATE_LIMIT", .value "nr-attempts" .u32,
    .switch "benchmark", .value "max-tokens" .u32, .value "max-nr-prompts" .u64,
    .value "replay" .path, .value "mutate-only" .text, .value "mutate-only-lines" .text,
    .value "max-lines-in-placeholder" .u64, .value "provider" .text, .value "out-dir" .path,
    .switch "json", .letterSwitch "quiet" 'q']

def summaryRules : List OptionRule := [verbose, .value "mutants-root" .path, .switch "json"]

/-- The configuration that options ask for; the lines are left to be read. -/
def configOf (s : Scanned) : Config :=
  let d := Config.standard
  let text (name default : String) := (s.values.lookup name).getD default
  let number (name : String) (default : Nat) : Nat :=
    ((s.values.lookup name).bind fun v => (readU32? v) <|> (readU64? v)).getD default
  { d with
    modelName := text "model" d.modelName
    temperature :=
      ((s.values.lookup "temperature").bind fun v => Binary64.ofText? v.toList).getD d.temperature
    maxTokens := number "max-tokens" d.maxTokens
    maxNrPrompts := number "max-nr-prompts" d.maxNrPrompts
    rateLimit := number "rate-limit" d.rateLimit
    nrAttempts := number "nr-attempts" d.nrAttempts
    template := text "template" d.template
    systemPrompt := text "system-prompt" d.systemPrompt
    mutate := text "mutate" d.mutate
    ignore := text "ignore" d.ignore
    benchmark := s.has "benchmark"
    mutateOnly := s.values.lookup "mutate-only"
    maxLinesInPlaceholder := number "max-lines-in-placeholder" d.maxLinesInPlaceholder }

/-- What the options of `generate` tell it. -/
def generateOrder (package : String) (s : Scanned) : GenerateOrder where
  package := .ofString package
  config := configOf s
  lineList := s.values.lookup "mutate-only-lines"
  isCached := !s.has "no-caching"
  cacheFolder := .ofString ((s.values.lookup "cache-dir").getD ".llm-cache")
  replay := (s.values.lookup "replay").map Path.ofString
  providers := s.values.lookup "provider"
  output := (s.values.lookup "out-dir").map Path.ofString
  asJson := s.has "json"
  isQuiet := s.has "quiet"

/-- What the options of `summary` tell it. -/
def summaryOrder (folder : String) (s : Scanned) : SummaryOrder where
  folder := .ofString folder
  mutantsRoot := (s.values.lookup "mutants-root").map Path.ofString
  asJson := s.has "json"

/-- The names of the commands. -/
def names : List String := ["generate", "summary", "help"]

/-- Takes the arguments after `help`. -/
def afterHelp : List String → Stop
  | [] => .help
  | [name] => if names.contains name then .help else .wrong
  | _ => .wrong

/-- Takes the letters of switches that stand before the command. -/
def leadingLetters : Bool → List Char → Except Stop Bool
  | seen, [] => .ok seen
  | seen, c :: cs =>
      if c = 'v' then if seen then .error .wrong else leadingLetters true cs
      else if c = 'h' then .error .help
      else if c = 'V' then .error .version
      else .error .wrong

/-- Reads a command line; `seen` tells whether the switch before the command was given. -/
def read (env : List (String × String)) (seen : Bool) : List String → Except Stop Command
  | [] => .error .wrong
  | arg :: more =>
      if arg = "generate" then do
        let (operand, s) ← scanWith generateRules env more
        return .generate (generateOrder operand s)
      else if arg = "summary" then do
        let (operand, s) ← scanWith summaryRules env more
        return .summary (summaryOrder operand s)
      else if arg = "help" then .error (afterHelp more)
      else if arg = "--help" then .error .help
      else if arg = "--version" then .error .version
      else if arg = "--verbose" then if seen then .error .wrong else read env true more
      else match arg.toList with
        | '-' :: c :: cs => do read env (← leadingLetters seen (c :: cs)) more
        | _ => .error .wrong

end Command

namespace GenerateOrder

/-- The configuration that is asked for, the lines among it. -/
def fullConfig (o : GenerateOrder) : Except Config.Fault Config := do
  let lines ← o.lineList.mapM Config.parseLines
  return { o.config with mutateOnlyLines := lines }

/-- The options of the queries. -/
def queryOptions (o : GenerateOrder) : Options :=
  { Options.none with
    providerOrder := o.providers.map fun text =>
      (((Text.splitOn ',' text.toList).map Text.trim).filter (!·.isEmpty)).map String.ofList }

end GenerateOrder

end Mutagenesis
