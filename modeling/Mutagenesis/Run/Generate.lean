import Mutagenesis.Mutant.Fence
import Mutagenesis.Package.Select
import Mutagenesis.Prompt.Sequence
import Mutagenesis.Prompt.Template
import Mutagenesis.Run.Artifacts

/-!
# Runs

A run goes through the specifications of its files in order and sends a prompt for each, until as
many have been sent as the configuration allows. Specifications that do not fit their file or that
the filters reject are skipped; the fragments that an answer proposes are classified, and the valid
ones are the mutants of the run. With an output folder, each prompt is recorded as soon as it is
answered, and the mutants and the summary are written at the end.
-/
namespace Mutagenesis

open Files (World)

namespace Site

/-- The candidates of a completion after the valid replacements seen so far. -/
def ofCompletion (s : Site) (seen : List String) (completion : String) :
    List Candidate × List String :=
  match extractFragments completion with
  | some fragments => s.classifyAll seen fragments
  | none => ([s.malformed completion], seen)

/-- The candidates of completions in turn. -/
def ofCompletions (s : Site) (seen : List String) : List String → List Candidate
  | [] => []
  | completion :: more =>
      let (candidates, seen) := s.ofCompletion seen completion
      candidates ++ ofCompletions s seen more

end Site

/-- What a run is to do. -/
structure Job where
  config : Config
  template : String
  options : Options
  /-- The folder for what the run leaves behind. -/
  output : Option Path

/-- How far a run has come. -/
structure Progress where
  prompts : PromptSequence
  summary : RunSummary
  mutants : List Mutant

/-- What a run comes to. -/
structure RunResult where
  summary : RunSummary
  mutants : List Mutant
  deriving DecidableEq, Repr

namespace Progress

def start (c : Config) : Progress := ⟨.start, .start c, []⟩

/-- Counts a specification for which no prompt is sent. -/
def skip (p : Progress) : Progress :=
  { p with summary := { p.summary with nrSkipped := p.summary.nrSkipped + 1 } }

/-- Counts a prompt that is sent. -/
def send (p : Progress) : Progress :=
  { p with summary := { p.summary with nrPrompts := p.summary.nrPrompts + 1 } }

/-- Takes in the answer to a prompt for a site. -/
def takeAnswer (p : Progress) (site : Site) (promptId : Nat) (answer : Answer) : Progress :=
  let candidates := site.ofCompletions [] answer.completions
  let valid := candidates.filter (·.classification = .valid)
  { p with
    summary := candidates.foldl RunSummary.addCandidate (p.summary.addUsage answer.usage)
    mutants := p.mutants ++ valid.map (Mutant.ofCandidate · promptId) }

/-- Takes in the failure of a prompt. -/
def takeFailure (p : Progress) (failure : Failure) : Progress :=
  let s := p.summary
  { p with summary :=
      if failure.isUnrecorded then { s with nrReplayMissing := s.nrReplayMissing + 1 }
      else { s with nrQueryFailed := s.nrQueryFailed + 1 } }

/-- Takes in what came of a prompt. -/
def take (p : Progress) (site : Site) (promptId : Nat) : Except Failure Answer → Progress
  | .ok answer => p.takeAnswer site promptId answer
  | .error failure => p.takeFailure failure

end Progress

namespace Job

variable {σ : Type}

def isFull (j : Job) (p : Progress) : Bool := decide (j.config.maxNrPrompts ≤ p.summary.nrPrompts)

/-- The prompt for a specification and the sequence after it; there is none when the
specification does not fit the file. -/
def prompt? (j : Job) (file : SourceFile) (spec : PromptSpec) (s : PromptSequence) :
    Option (Prompt × PromptSequence) :=
  (spec.codeWithPlaceholder file.text).map fun code => s.create (render j.template code spec) spec

/-- What is recorded of a prompt; a prompt that a replay could not answer leaves the same gap. -/
def recordOf? (prompt : Prompt) (outcome : Except Failure Answer) : Option PromptRecord :=
  let record (o : Outcome) : PromptRecord := ⟨prompt.id, prompt.text, prompt.spec.location, o⟩
  match outcome with
  | .ok answer => some (record (.completed answer))
  | .error failure => if failure.isUnrecorded then none else some (record .failed)

/-- Records a prompt in the output folder, if there is one. -/
def save (j : Job) (prompt : Prompt) (outcome : Except Failure Answer) (w : World) :
    Except ArtifactFault Unit × World :=
  match j.output, recordOf? prompt outcome with
  | some folder, some record => Artifacts.saveRecord w folder record
  | _, _ => (.ok (), w)

/-- Goes on after one specification. -/
def visit (j : Job) (m : Model σ) (file : SourceFile) (spec : PromptSpec) (p : Progress)
    (s : World × σ) : Except ArtifactFault Progress × World × σ :=
  match j.prompt? file spec p.prompts with
  | none => (.ok p.skip, s)
  | some (prompt, prompts) =>
      let p := { p with prompts := prompts }
      if spec.isSkipped j.config then (.ok p.skip, s)
      else
        let (outcome, w, s) := m.query prompt.text j.options s
        let site : Site := ⟨file.language, file.text, spec, j.config.maxLinesInPlaceholder⟩
        match j.save prompt outcome w with
        | (.error fault, w) => (.error fault, w, s)
        | (.ok (), w) => (.ok (p.send.take site prompt.id outcome), w, s)

/-- Goes on through specifications in turn. -/
def visitAll (j : Job) (m : Model σ) :
    List (SourceFile × PromptSpec) → Progress → World × σ →
      Except ArtifactFault Progress × World × σ
  | [], p, s => (.ok p, s)
  | (file, spec) :: more, p, s =>
      if j.isFull p then (.ok p, s)
      else match j.visit m file spec p s with
        | (.error fault, s) => (.error fault, s)
        | (.ok p, s) => visitAll j m more p s

/-- The specifications of files, in order. -/
def specsOf (files : List SourceFile) : List (SourceFile × PromptSpec) :=
  files.flatMap fun file => file.specs.map fun spec => (file, spec)

/-- Clears the output folder, if there is one. -/
def clear (j : Job) (w : World) : Except ArtifactFault Unit × World :=
  match j.output with
  | some folder => Artifacts.clear w folder
  | none => (.ok (), w)

/-- Writes what a run comes to into the output folder, if there is one. -/
def saveResult (j : Job) (r : RunResult) (w : World) : Except ArtifactFault Unit × World :=
  match j.output with
  | none => (.ok (), w)
  | some folder =>
      match Artifacts.saveMutants w folder r.mutants with
      | (.error fault, w) => (.error fault, w)
      | (.ok (), w) => Artifacts.saveSummary w folder r.summary

/-- Makes a run over files. -/
def generate (j : Job) (m : Model σ) (files : List SourceFile) (s : World × σ) :
    Except ArtifactFault RunResult × World × σ :=
  match j.clear s.1 with
  | (.error fault, w) => (.error fault, w, s.2)
  | (.ok (), w) =>
      match j.visitAll m (specsOf files) (.start j.config) (w, s.2) with
      | (.error fault, s) => (.error fault, s)
      | (.ok p, w, s) =>
          let result : RunResult := ⟨p.summary.setFailures (m.counter s), p.mutants⟩
          match j.saveResult result w with
          | (.error fault, w) => (.error fault, w, s)
          | (.ok (), w) => (.ok result, w, s)

end Job

end Mutagenesis
