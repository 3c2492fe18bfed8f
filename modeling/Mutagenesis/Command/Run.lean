import Mutagenesis.Command.Basic
import Mutagenesis.Command.Report
import Mutagenesis.Model.Cache
import Mutagenesis.Model.Live
import Mutagenesis.Model.Replay
import Mutagenesis.Prompt.Source
import Mutagenesis.Run.Generate

/-!
# Carrying out commands

What a command prints, the code with which it ends and what it does to files. A command that cannot
be carried out ends with code 2, and one that fails on the way with code 3; nothing is written
before all it needs has been read.
-/
namespace Mutagenesis

open Files (World)

namespace GenerateOrder

/-- The lines that are printed unless the order forbids it. -/
def say (o : GenerateOrder) (line : String) : List String :=
  if o.isQuiet || o.asJson then [] else [line]

/-- The folder for what a run leaves behind. -/
def outputFolder (o : GenerateOrder) : Path :=
  o.output.getD (Package.outputFolder o.package)

/-- The lines that show a finished run. -/
def reportOf (o : GenerateOrder) (r : RunResult) : List String :=
  if o.isQuiet then []
  else if o.asJson then [r.summary.toJson.line]
  else Report.ofSummary r.summary o.outputFolder ++
    [Report.success ("Wrote " ++ Artifacts.mutantsName ++ " and " ++ Artifacts.summaryName ++
      " to " ++ o.outputFolder.shown)]

end GenerateOrder

namespace Command

/-- How a command ends. -/
structure Ending where
  code : Nat
  /-- The lines printed. -/
  output : List String
  /-- What went wrong. -/
  fault : Option String
  deriving DecidableEq, Repr

/-- What the program runs on. -/
structure Surroundings (τ : Type) where
  env : List (String × String)
  transport : Transport τ
  /-- The draws for the delays of a live model. -/
  draws : List Nat

variable {τ σ : Type}

/-- Ends a command that went wrong. -/
def fail (code : Nat) (output : List String) (fault : String) : Ending := ⟨code, output, some fault⟩

/-- Whether two paths name the same folder. Of paths that do not both lead to one, the names are
compared. -/
def sameFolder (w : World) (p q : Path) : Bool :=
  match w.canonical? p, w.canonical? q with
  | some a, some b => a = b
  | _, _ => p.same q

/-- Generates mutants with a model; `said` has been printed before. -/
def generateWith (o : GenerateOrder) (m : Model σ) (c : Config) (said : List String)
    (s : World × σ) : Ending × World × σ :=
  match templateText s.1 c.template with
  | .error fault => (fail 2 said fault.message, s)
  | .ok template =>
      match Package.load s.1 o.package c with
      | .error fault => (fail 3 said fault.message, s)
      | .ok files =>
          let said := said ++ o.say ("*** Generating mutants for " ++ c.mutate ++
            " in " ++ o.package.shown ++ " (" ++ Report.numeral files.length ++ " files)")
          let job : Job := ⟨c, template, o.queryOptions, some o.outputFolder⟩
          match job.generate m files s with
          | (.error fault, s) => (fail 3 said ("Failed to write run output: " ++ fault.message), s)
          | (.ok result, s) => (⟨0, said ++ o.reportOf result, none⟩, s)

/-- Generates mutants from a recorded run. -/
def replayRun (o : GenerateOrder) (folder : Path) (w : World) : Ending × World :=
  match Recording.load w folder with
  | .error fault => (fail 2 [] fault.message, w)
  | .ok recording =>
      let c := { recording.config with mutate := o.config.mutate, ignore := o.config.ignore }
      match c.validate with
      | .error fault => (fail 2 [] fault.message, w)
      | .ok () =>
          let said := o.say ("Replaying " ++
            Report.numeral recording.records.length ++ " recorded prompts from " ++ folder.shown)
          let (ending, w, _) := generateWith o (.replay c) c said (w, recording.records)
          (ending, w)

/-- Reads the headers that the environment sets for requests. -/
def headersOf (env : List (String × String)) : Except Config.Fault (List (String × String)) :=
  match env.lookup headersVariable with
  | none => .ok []
  | some text => if (Text.trim text.toList).isEmpty then .ok [] else parseHeaders text

/-- The configuration of a live run and its system prompt. -/
def prepareLive (o : GenerateOrder) (env : List (String × String)) (w : World) :
    Except Config.Fault (Config × String) := do
  let c ← o.fullConfig
  c.validate
  let context ← templateText w c.systemPrompt
  if (env.lookup endpointVariable).isNone then throw (.missingVariable endpointVariable)
  discard (headersOf env)
  return (c, context)

/-- Generates mutants with a live model. -/
def liveRun (o : GenerateOrder) (e : Surroundings τ) (s : World × τ) : Ending × World × τ :=
  match prepareLive o e.env s.1 with
  | .error fault => (fail 2 [] fault.message, s)
  | .ok (c, context) =>
      let live := Model.live c context (.ofConfig c) e.transport
      let model := if o.isCached then live.cached o.cacheFolder else live
      let (ending, w, side) := generateWith o model c [] (s.1, .start s.2 e.draws)
      (ending, w, side.transport)

/-- Carries out `generate`. -/
def runGenerate (o : GenerateOrder) (e : Surroundings τ) (s : World × τ) : Ending × World × τ :=
  if !s.1.isFolder o.package then
    (fail 2 [] ("Package directory not found: " ++ o.package.shown ++
      ". Check the path and try again."), s)
  else match o.replay with
    | some folder =>
        if sameFolder s.1 folder o.outputFolder then
          (fail 2 [] "Replay input and output directory are the same. Pass --out-dir.", s)
        else
          let (ending, w) := replayRun o folder s.1
          (ending, w, s.2)
    | none => liveRun o e s

/-- Carries out `summary`. -/
def runSummary (o : SummaryOrder) (w : World) : Ending :=
  match Artifacts.loadSummary w o.folder with
  | .error fault =>
      fail 2 [] ("No run found: " ++ fault.message ++ ". Run \x60llm-mutator generate\x60 first.")
  | .ok s =>
      let said := if o.asJson then [s.toJson.line] else Report.ofSummary s o.folder
      match o.mutantsRoot with
      | none => ⟨0, said, none⟩
      | some root =>
          match Artifacts.loadMutants w o.folder with
          | .error fault => fail 3 said fault.message
          | .ok mutants => ⟨0, said ++ "" :: Report.ofMutants w root mutants, none⟩

def versionLine : String := "llm-mutator 0.1.0"

def helpLine : String := "Usage: llm-mutator [OPTIONS] <COMMAND>"

/-- How a command line ends that names no command to carry out. -/
def endingOf : Stop → Ending
  | .wrong => ⟨2, [], none⟩
  | .help => ⟨0, [helpLine], none⟩
  | .version => ⟨0, [versionLine], none⟩

/-- Carries out a command line. -/
def run (args : List String) (e : Surroundings τ) (s : World × τ) : Ending × World × τ :=
  match read e.env false args with
  | .error stop => (endingOf stop, s)
  | .ok (.generate order) => runGenerate order e s
  | .ok (.summary order) => (runSummary order s.1, s)

end Command

end Mutagenesis
