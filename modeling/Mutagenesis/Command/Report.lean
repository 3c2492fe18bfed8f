import Mutagenesis.Diff.Report
import Mutagenesis.Files.Access
import Mutagenesis.Mutant.Basic
import Mutagenesis.Run.Summary

/-!
# Reports

The lines in which a finished run is shown: its counts, and its mutants with the lines they change.
-/
namespace Mutagenesis.Report

open Files (World)

def numeral (n : Nat) : String := String.ofList (Text.numeral n)

/-- What begins a line that tells of success. -/
def success (text : String) : String := "✓ " ++ text

def detail (text : String) : String := "  · " ++ text

def warning (text : String) : String := "  ! " ++ text

/-- The lines that show a summary. -/
def ofSummary (s : RunSummary) (folder : Path) : List String :=
  let temperature := String.ofList s.config.temperature.reportText
  [success (folder.shown ++ ": " ++ numeral s.nrMutants ++ " mutants from " ++
      numeral s.nrPrompts ++ " prompts (" ++ s.config.modelName ++ ", temperature " ++
      temperature ++ ")"),
    detail ("candidates: " ++ numeral s.nrCandidates ++ " total, " ++ numeral s.nrInvalid ++
      " invalid, " ++ numeral s.nrIdentical ++ " identical, " ++ numeral s.nrDuplicate ++
      " duplicate"),
    detail ("tokens: " ++ numeral s.usage.promptTokens ++ " prompt, " ++
      numeral s.usage.completionTokens ++ " completion, " ++ numeral s.usage.totalTokens ++
      " total")] ++
  (if s.nrSkipped = 0 then []
    else [detail (numeral s.nrSkipped ++ " locations skipped by filters")]) ++
  (if s.nrQueryFailed = 0 ∧ s.failures.nrRetries = 0 then []
    else [warning (numeral s.nrQueryFailed ++ " prompts failed (" ++
      numeral s.failures.nrRetries ++ " retries)")]) ++
  (if s.nrReplayMissing = 0 then []
    else [warning (numeral s.nrReplayMissing ++ " prompts had no recorded response")])

/-- Whether a line of a diff is one that was taken out or put in. -/
def isChange (line : List Char) : Bool := line.head? = some '-' || line.head? = some '+'

/-- The lines of a source that a mutant changes, as far as it can be applied there. -/
def changes (w : World) (root : Path) (m : Mutant) : List String :=
  match w.readText (root.join (.ofString m.file)) with
  | .error _ => []
  | .ok source =>
      match splice source m.location m.replacement with
      | none => []
      | some mutated =>
          ((Text.lines (diffReport source mutated).toList).filter isChange).map fun line =>
            "  " ++ String.ofList line

/-- The lines that show a mutant. -/
def ofMutant (w : World) (root : Path) (number : Nat) (m : Mutant) : List String :=
  ("@m" ++ numeral number ++ " " ++ m.file ++ ":" ++ numeral m.lineNr ++ " " ++ m.originalCode ++
    " → " ++ m.replacement) :: changes w root m

/-- The lines that show mutants, numbered from one. -/
def ofMutants (w : World) (root : Path) (ms : List Mutant) : List String :=
  ((List.range ms.length).zip ms).flatMap fun (i, m) => ofMutant w root (i + 1) m

end Mutagenesis.Report
