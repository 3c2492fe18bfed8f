import Mutagenesis.Proofs.Json.Records
import Mutagenesis.Run.Summary

/-!
# Written summaries

A summary and the configuration in it are written and read field by field, so each of them can be
told from the values of its fields. They read back from what is written for them, as long as their
numbers fit the words that hold them and the temperature reads back from its written form. A
temperature that does not read back as itself changes nothing else.
-/
namespace Mutagenesis

open Json (ReadsAs ReadsBack Written)

/-! ## Configurations -/

namespace Config

variable {c : Config} {y : Binary64}

/-- Whether the numbers of a configuration other than its temperature fit the words that hold
them. -/
structure NumbersFit (c : Config) : Prop where
  maxTokens : c.maxTokens ≤ 0xFFFFFFFF
  maxNrPrompts : c.maxNrPrompts ≤ 0xFFFFFFFFFFFFFFFF
  rateLimit : c.rateLimit ≤ 0xFFFFFFFFFFFFFFFF
  nrAttempts : c.nrAttempts ≤ 0xFFFFFFFF
  mutateOnlyLines : ∀ lines, c.mutateOnlyLines = some lines →
    ∀ line ∈ lines, line ≤ 0xFFFFFFFFFFFFFFFF
  maxLinesInPlaceholder : c.maxLinesInPlaceholder ≤ 0xFFFFFFFFFFFFFFFF

/-- Whether a configuration reads back: its numbers fit the words that hold them, and so does the
written form of its temperature. -/
structure Fits (c : Config) : Prop extends NumbersFit c where
  temperature : ReadsBack c.temperature

/-- The value of a field. -/
def value (c : Config) : (f : Field) → f.Value
  | .modelName => c.modelName
  | .temperature => c.temperature
  | .maxTokens => c.maxTokens
  | .maxNrPrompts => c.maxNrPrompts
  | .rateLimit => c.rateLimit
  | .nrAttempts => c.nrAttempts
  | .template => c.template
  | .systemPrompt => c.systemPrompt
  | .mutate => c.mutate
  | .ignore => c.ignore
  | .benchmark => c.benchmark
  | .mutateOnly => c.mutateOnly
  | .mutateOnlyLines => c.mutateOnlyLines
  | .maxLinesInPlaceholder => c.maxLinesInPlaceholder

/-- What is written for a field; a filter that is not set is left out. -/
def json? (c : Config) : Field → Option Json
  | .modelName => some (.str c.modelName)
  | .temperature => some (.float c.temperature)
  | .maxTokens => some (.nat c.maxTokens)
  | .maxNrPrompts => some (.nat c.maxNrPrompts)
  | .rateLimit => some (.nat c.rateLimit)
  | .nrAttempts => some (.nat c.nrAttempts)
  | .template => some (.str c.template)
  | .systemPrompt => some (.str c.systemPrompt)
  | .mutate => some (.str c.mutate)
  | .ignore => some (.str c.ignore)
  | .benchmark => some (.bool c.benchmark)
  | .mutateOnly => c.mutateOnly.map .str
  | .mutateOnlyLines => c.mutateOnlyLines.map fun ns => .arr (ns.map .nat)
  | .maxLinesInPlaceholder => some (.nat c.maxLinesInPlaceholder)

theorem toJson_eq_fields (c : Config) :
    c.toJson = .obj (shape.fields.filterMap fun f =>
      (c.json? f).map fun v => (shape.name f, v)) := by
  cases h : c.mutateOnly <;> cases h' : c.mutateOnlyLines <;>
    simp only [toJson, shape, Field.all, List.filterMap, json?, h, h'] <;> rfl

/-- Each field reads back, the temperature as the reader takes it. -/
theorem written_field (fits : c.NumbersFit) (reads : ReadsAs c.temperature y) (f : Field) (v : Json)
    (given : c.json? f = some v) :
    Written f.decoder v (({ c with temperature := y } : Config).value f) := by
  cases f with
  | mutateOnly =>
      obtain ⟨s, hs, rfl⟩ := Option.map_eq_some_iff.1 given
      simp only [value, hs]
      exact Json.written_nullable (Json.written_string s) (by simp)
  | mutateOnlyLines =>
      obtain ⟨ns, hns, rfl⟩ := Option.map_eq_some_iff.1 given
      simp only [value, hns]
      exact Json.written_nullable (Json.written_listOf fun n hn =>
        Json.written_count (fits.mutateOnlyLines ns hns n hn)) (by simp)
  | _ =>
      obtain rfl := Option.some.inj given
      first
        | exact Json.written_string _
        | exact Json.written_boolean _
        | exact Json.written_double reads
        | exact Json.written_u32 fits.maxTokens
        | exact Json.written_u32 fits.nrAttempts
        | exact Json.written_count fits.maxNrPrompts
        | exact Json.written_u64 fits.rateLimit
        | exact Json.written_count fits.maxLinesInPlaceholder

/-- A filter that is left out is read as one that is not set. -/
theorem fallback_of_unwritten (f : Field) (absent : c.json? f = none) :
    f.fallback = some (({ c with temperature := y } : Config).value f) := by
  cases f with
  | mutateOnly | mutateOnlyLines =>
      simp only [value, Option.map_eq_none_iff.1 absent]
      rfl
  | _ => exact nomatch absent

/-- A configuration is made of the values of its fields. -/
theorem decoder_eq_ok {found : Json.Found} {d : shape.Draft × Nat}
    (draft : shape.draft found = .ok d) (needs : ∀ f : Field, shape.need d f = .ok (c.value f)) :
    decoder found = .ok c := by
  have modelName := needs .modelName
  have temperature := needs .temperature
  have maxTokens := needs .maxTokens
  have maxNrPrompts := needs .maxNrPrompts
  have rateLimit := needs .rateLimit
  have nrAttempts := needs .nrAttempts
  have template := needs .template
  have systemPrompt := needs .systemPrompt
  have mutate := needs .mutate
  have ignore := needs .ignore
  have benchmark := needs .benchmark
  have mutateOnly := needs .mutateOnly
  have mutateOnlyLines := needs .mutateOnlyLines
  have maxLinesInPlaceholder := needs .maxLinesInPlaceholder
  simp only [decoder, draft, modelName, temperature, maxTokens, maxNrPrompts, rateLimit, nrAttempts,
    template, systemPrompt, mutate, ignore, benchmark, mutateOnly, mutateOnlyLines,
    maxLinesInPlaceholder, bind, Except.bind, pure, Except.pure]
  rfl

theorem mem_all (f : Field) : f ∈ Field.all := by
  cases f <;> decide

/-- A configuration whose numbers fit reads back but for its temperature. -/
theorem writtenAs (fits : c.NumbersFit) (reads : ReadsAs c.temperature y) :
    Written decoder c.toJson { c with temperature := y } := by
  rw [toJson_eq_fields]
  exact Json.Shape.written_fields (s := shape) ({ c with temperature := y } : Config).value c.json?
    (by intro f; cases f <;> rfl) (by decide) (written_field fits reads) fallback_of_unwritten
    fun found d draft needs => decoder_eq_ok draft fun f => needs f (mem_all f)

/-- A configuration that fits reads back. -/
theorem written (fits : c.Fits) : Written decoder c.toJson c :=
  writtenAs fits.toNumbersFit fits.temperature

theorem fits_standard : standard.Fits := by
  have temperature : ReadsBack standard.temperature := eq_ok_of_toOption (by decide +kernel)
  exact ⟨⟨by decide, by decide, by decide, by decide, by simp [standard], by decide⟩, temperature⟩

end Config

/-! ## Summaries -/

namespace RunSummary

variable {s : RunSummary} {y : Binary64}

/-- Whether the counts of a summary fit the words that hold them. -/
structure CountsFit (s : RunSummary) : Prop where
  nrPrompts : s.nrPrompts ≤ 0xFFFFFFFFFFFFFFFF
  nrCandidates : s.nrCandidates ≤ 0xFFFFFFFFFFFFFFFF
  nrInvalid : s.nrInvalid ≤ 0xFFFFFFFFFFFFFFFF
  nrIdentical : s.nrIdentical ≤ 0xFFFFFFFFFFFFFFFF
  nrDuplicate : s.nrDuplicate ≤ 0xFFFFFFFFFFFFFFFF
  nrMutants : s.nrMutants ≤ 0xFFFFFFFFFFFFFFFF
  nrSkipped : s.nrSkipped ≤ 0xFFFFFFFFFFFFFFFF
  nrQueryFailed : s.nrQueryFailed ≤ 0xFFFFFFFFFFFFFFFF
  nrReplayMissing : s.nrReplayMissing ≤ 0xFFFFFFFFFFFFFFFF
  usage : s.usage.Fits
  failures : s.failures.Fits

/-- Whether a summary reads back: its counts fit the words that hold them, and its configuration
reads back. -/
structure Fits (s : RunSummary) : Prop extends CountsFit s where
  config : s.config.Fits

/-- A summary under the standard configuration fits when its counts do. -/
theorem fits_of_counts {s : RunSummary} (config : s.config = .standard) (usage : s.usage.Fits)
    (counts : [s.nrPrompts, s.nrCandidates, s.nrInvalid, s.nrIdentical, s.nrDuplicate,
      s.nrMutants, s.nrSkipped, s.nrQueryFailed, s.nrReplayMissing, s.failures.nrRetries,
      s.failures.nrFailures].all (· ≤ 0xFFFFFFFF) = true) : s.Fits := by
  simp only [List.all_cons, List.all_nil, Bool.and_eq_true, decide_eq_true_eq] at counts
  refine ⟨?_, config ▸ Config.fits_standard⟩
  constructor
  case usage => exact usage
  case failures => constructor <;> omega
  all_goals omega

/-- The summary with another temperature in its configuration. -/
def withTemperature (s : RunSummary) (y : Binary64) : RunSummary :=
  { s with config := { s.config with temperature := y } }

/-- The value of a field. -/
def value (s : RunSummary) : (f : Field) → f.Value
  | .nrPrompts => s.nrPrompts
  | .nrCandidates => s.nrCandidates
  | .nrInvalid => s.nrInvalid
  | .nrIdentical => s.nrIdentical
  | .nrDuplicate => s.nrDuplicate
  | .nrMutants => s.nrMutants
  | .nrSkipped => s.nrSkipped
  | .nrQueryFailed => s.nrQueryFailed
  | .nrReplayMissing => s.nrReplayMissing
  | .promptTokens => s.usage.promptTokens
  | .completionTokens => s.usage.completionTokens
  | .totalTokens => s.usage.totalTokens
  | .nrRetries => s.failures.nrRetries
  | .nrFailures => s.failures.nrFailures
  | .config => s.config

/-- What is written for a field. -/
def json (s : RunSummary) : Field → Json
  | .config => s.config.toJson
  | .nrPrompts => .nat s.nrPrompts
  | .nrCandidates => .nat s.nrCandidates
  | .nrInvalid => .nat s.nrInvalid
  | .nrIdentical => .nat s.nrIdentical
  | .nrDuplicate => .nat s.nrDuplicate
  | .nrMutants => .nat s.nrMutants
  | .nrSkipped => .nat s.nrSkipped
  | .nrQueryFailed => .nat s.nrQueryFailed
  | .nrReplayMissing => .nat s.nrReplayMissing
  | .promptTokens => .nat s.usage.promptTokens
  | .completionTokens => .nat s.usage.completionTokens
  | .totalTokens => .nat s.usage.totalTokens
  | .nrRetries => .nat s.failures.nrRetries
  | .nrFailures => .nat s.failures.nrFailures

theorem toJson_eq_fields (s : RunSummary) :
    s.toJson = .obj (shape.fields.filterMap fun f => (some (s.json f)).map fun v =>
      (shape.name f, v)) := rfl

/-- Each field reads back, the configuration but for its temperature. -/
theorem written_field (counts : s.CountsFit) (config : s.config.NumbersFit)
    (reads : ReadsAs s.config.temperature y) (f : Field) :
    Written f.decoder (s.json f) ((s.withTemperature y).value f) := by
  cases f with
  | config => exact Config.writtenAs config reads
  | nrPrompts => exact Json.written_count counts.nrPrompts
  | nrCandidates => exact Json.written_count counts.nrCandidates
  | nrInvalid => exact Json.written_count counts.nrInvalid
  | nrIdentical => exact Json.written_count counts.nrIdentical
  | nrDuplicate => exact Json.written_count counts.nrDuplicate
  | nrMutants => exact Json.written_count counts.nrMutants
  | nrSkipped => exact Json.written_count counts.nrSkipped
  | nrQueryFailed => exact Json.written_count counts.nrQueryFailed
  | nrReplayMissing => exact Json.written_count counts.nrReplayMissing
  | promptTokens => exact Json.written_u64 counts.usage.promptTokens
  | completionTokens => exact Json.written_u64 counts.usage.completionTokens
  | totalTokens => exact Json.written_u64 counts.usage.totalTokens
  | nrRetries => exact Json.written_u32 counts.failures.nrRetries
  | nrFailures => exact Json.written_u32 counts.failures.nrFailures

/-- A summary is made of the values of its fields. -/
theorem decoder_eq_ok {found : Json.Found} {d : shape.Draft × Nat}
    (draft : shape.draft found = .ok d) (needs : ∀ f : Field, shape.need d f = .ok (s.value f)) :
    decoder found = .ok s := by
  have nrPrompts := needs .nrPrompts
  have nrCandidates := needs .nrCandidates
  have nrInvalid := needs .nrInvalid
  have nrIdentical := needs .nrIdentical
  have nrDuplicate := needs .nrDuplicate
  have nrMutants := needs .nrMutants
  have nrSkipped := needs .nrSkipped
  have nrQueryFailed := needs .nrQueryFailed
  have nrReplayMissing := needs .nrReplayMissing
  have promptTokens := needs .promptTokens
  have completionTokens := needs .completionTokens
  have totalTokens := needs .totalTokens
  have nrRetries := needs .nrRetries
  have nrFailures := needs .nrFailures
  have config := needs .config
  simp only [decoder, draft, nrPrompts, nrCandidates, nrInvalid, nrIdentical, nrDuplicate,
    nrMutants, nrSkipped, nrQueryFailed, nrReplayMissing, promptTokens, completionTokens,
    totalTokens, nrRetries, nrFailures, config, bind, Except.bind, pure, Except.pure]
  rfl

theorem mem_all (f : Field) : f ∈ Field.all := by
  cases f <;> decide

/-- A summary whose numbers fit reads back but for the temperature. -/
theorem writtenAs (counts : s.CountsFit) (config : s.config.NumbersFit)
    (reads : ReadsAs s.config.temperature y) :
    Written decoder s.toJson (s.withTemperature y) := by
  rw [toJson_eq_fields]
  refine Json.Shape.written_fields (s := shape) (s.withTemperature y).value
    (fun f => some (s.json f)) (by intro f; cases f <;> rfl) (by decide) ?_ (fun _ h => nomatch h)
    fun found d draft needs => decoder_eq_ok draft fun f => needs f (mem_all f)
  intro f v given
  obtain rfl := Option.some.inj given
  exact written_field counts config reads f

/-- A summary that fits reads back. -/
theorem written (fits : s.Fits) : Written decoder s.toJson s :=
  writtenAs fits.toCountsFit fits.config.toNumbersFit fits.config.temperature

end RunSummary

end Mutagenesis
