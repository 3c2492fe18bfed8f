import Mutagenesis.Model.Cache
import Mutagenesis.Proofs.Run.Accounting
import Mutagenesis.Proofs.Run.Recording

/-!
# Replayed runs

A replay of a recorded run takes the same way: as long as its records are those of the turns ahead,
the first of them is always that of the prompt it is asked for, and it answers as the recorded model
did. So the replay comes to the same mutants and counts and leaves the same records.
-/
namespace Mutagenesis

open Files (Address Entry World Route)
open Artifacts (Recorded Finished promptsAt)

namespace Job

variable {σ : Type} {j j' : Job} {m : Model σ}

/-- What a replay says of a prompt whose outcome was recorded. -/
def replayed : Except Failure Answer → Except Failure Answer
  | .ok answer => .ok answer
  | .error _ => .error .recorded

/-- The record at the head answers the prompt that it was made for. -/
theorem answer_of_recordOf? {prompt : Prompt} {outcome : Except Failure Answer} {x : PromptRecord}
    (h : recordOf? prompt outcome = some x) (rest : List PromptRecord) :
    Recording.answer prompt.text (x :: rest) = (replayed outcome, rest) := by
  unfold recordOf? at h
  cases outcome with
  | ok answer =>
      obtain rfl := Option.some.inj h
      simp [Recording.answer, Recording.take?, replayed]
  | error failure =>
      simp only at h
      split at h
      next => simp at h
      next =>
        obtain rfl := Option.some.inj h
        simp [Recording.answer, Recording.take?, replayed]

/-- Whether a prompt was answered or has failed for good. -/
def isRecorded : Except Failure Answer → Bool
  | .ok _ => true
  | .error failure => !failure.isUnrecorded

theorem exists_recordOf? (prompt : Prompt) {outcome : Except Failure Answer}
    (h : isRecorded outcome = true) : ∃ x, recordOf? prompt outcome = some x := by
  cases outcome with
  | ok answer => exact ⟨_, rfl⟩
  | error failure =>
      have known : failure.isUnrecorded = false := by simpa [isRecorded] using h
      simp [recordOf?, known]

/-- A replayed outcome is recorded as the outcome was. -/
theorem recordOf?_replayed (prompt : Prompt) {outcome : Except Failure Answer}
    (h : isRecorded outcome = true) :
    recordOf? prompt (replayed outcome) = recordOf? prompt outcome := by
  cases outcome with
  | ok answer => rfl
  | error failure =>
      have known : failure.isUnrecorded = false := by simpa [isRecorded] using h
      have replayed_known : Failure.recorded.isUnrecorded = false := rfl
      simp [recordOf?, replayed, known, replayed_known]

/-- A replayed outcome takes a run as far as the outcome did. -/
theorem after_replayed (hconfig : j'.config = j.config) (p : Progress) (t : Turn)
    (h : isRecorded t.outcome = true) (before after : World) :
    j'.after p ⟨t.file, t.prompt, replayed t.outcome, before, after⟩ = j.after p t := by
  obtain ⟨file, prompt, failure | answer, _, _⟩ := t
  · have known : failure.isUnrecorded = false := by simpa [isRecorded] using h
    have replayed_known : Failure.recorded.isUnrecorded = false := rfl
    simp [Job.after, Progress.take, Progress.takeFailure, replayed, known, replayed_known]
  · simp [Job.after, Progress.take, replayed, site, hconfig]

/-- A run that replays the records of the turns ahead takes the same way. -/
theorem Visits.replay (hconfig : j'.config = j.config) (htemplate : j'.template = j.template)
    {specs : List (SourceFile × PromptSpec)} {p p' q' : Progress} {s s' : World × σ}
    {ts ts' : List Turn} {c : Config} {w : World} {rest : List PromptRecord}
    {v : World × List PromptRecord} (way : Visits j m specs p s ts p' s')
    (recorded : ∀ t ∈ ts, isRecorded t.outcome = true)
    (way' : Visits j' (.replay c) specs p (w, ts.filterMap Turn.record? ++ rest) ts' q' v) :
    q' = p' ∧ v.2 = rest ∧ ts'.filterMap Turn.record? = ts.filterMap Turn.record? := by
  have fullness : ∀ p, j'.isFull p = j.isFull p := fun p => by simp [isFull, hconfig]
  induction way generalizing w ts' with
  | done =>
      cases way' with
      | done => exact ⟨rfl, rfl, rfl⟩
  | full full =>
      cases way' with
      | full => exact ⟨rfl, rfl, rfl⟩
      | unfit room | filtered room | asked room => simp [fullness, full] at room
  | unfit room unfit _ ih =>
      cases way' with
      | full full => simp [fullness, room] at full
      | unfit _ _ more => exact ih recorded more
      | filtered _ fits | asked _ fits => simp [unfit] at fits
  | filtered room fits skipped _ ih =>
      cases way' with
      | full full => simp [fullness, room] at full
      | unfit _ unfit => simp [fits] at unfit
      | filtered _ _ _ more => exact ih recorded more
      | asked _ _ kept => simp [hconfig, skipped] at kept
  | @asked file spec more p s ts p' s' code outcome s₁ w₂ room fits kept _ _ _ ih =>
      rw [List.forall_mem_cons] at recorded
      cases way' with
      | full full => simp [fullness, room] at full
      | unfit _ unfit => simp [fits] at unfit
      | filtered _ _ skipped => simp [hconfig, kept] at skipped
      | @asked _ _ _ _ _ ts' _ _ code' outcome' v₁ _ _ fits' _ answer saved more =>
          obtain rfl := Option.some.inj (fits.symm.trans fits')
          obtain ⟨x, hx⟩ := exists_recordOf?
            ⟨p.prompts.nextId, render j.template code spec, spec⟩ recorded.1
          have again := recordOf?_replayed
            ⟨p.prompts.nextId, render j.template code spec, spec⟩ recorded.1
          have head := answer_of_recordOf? hx (ts.filterMap Turn.record? ++ rest)
          simp only [List.filterMap_cons, Turn.record?, hx, Model.replay, htemplate,
            List.cons_append, head, Prod.mk.injEq] at answer
          obtain ⟨rfl, rfl⟩ := answer
          simp only [htemplate] at more
          rw [after_replayed hconfig p ⟨file, _, outcome, s.1, s₁.1⟩ recorded.1] at more
          obtain ⟨hq, hrest, hts⟩ := ih recorded.2 more
          refine ⟨hq, hrest, ?_⟩
          simp only [List.filterMap_cons, Turn.record?, htemplate, again, hts]

/-- Where each prompt has its record, none is missing. -/
theorem nrReplayMissing_eq_zero {files : List SourceFile} {s s' : World × σ} {result : RunResult}
    (h : j.generate m files s = (.ok result, s'))
    (recorded : ∀ t ∈ j.turns m files s, isRecorded t.outcome = true) :
    result.summary.nrReplayMissing = 0 := by
  obtain ⟨w₁, p, w₂, s₂, -, way, rfl, -, -⟩ := generate_eq_ok h
  obtain ⟨visited, -, b, -⟩ := (books_start j).run way
  have missing : p.summary.nrReplayMissing = _ := b.missing
  rw [List.nil_append] at missing
  rw [RunSummary.setFailures, missing, List.countP_eq_zero]
  intro t ht
  have known := recorded t ht
  obtain ⟨file, prompt, failure | answer, w, w'⟩ := t
  · simpa [Turn.isUnrecorded, isRecorded] using known
  · simp [Turn.isUnrecorded]

/-- What the result of a replay has in common with that of the run that it replays. -/
structure Repeats (result result' : RunResult) : Prop where
  mutants : result'.mutants = result.mutants
  summary : result'.summary = { result.summary with failures := .zero }
  complete : result'.summary.nrReplayMissing = 0

/-- What a replay with its output folder has in common with the run that it replays. -/
structure Reproduces (w : World) (folder : Path) (r : Route) (result : RunResult) (w' : World)
    (folder' : Path) (r' : Route) (result' : RunResult) : Prop
    extends Repeats result result' where
  mutantsFile : ∃ content, w.read (Artifacts.mutantsPath folder) = .ok content ∧
    w'.read (Artifacts.mutantsPath folder') = .ok content
  located : w.locate true (Artifacts.promptsPath folder) = .ok (promptsAt r) ∧
    w'.locate true (Artifacts.promptsPath folder') = .ok (promptsAt r')
  prompts : ∀ b, w'.get? (b ++ promptsAt r') = w.get? (b ++ promptsAt r)

/-- A replay of the records of a run comes to the result of the run and leaves the same records. -/
theorem repeats_of_replay {files : List SourceFile} {s s' : World × σ} {result result' : RunResult}
    {options : Options} {output : Option Path} {v : World} {s'' : World × List PromptRecord}
    (h : j.generate m files s = (.ok result, s'))
    (recorded : ∀ t ∈ j.turns m files s, isRecorded t.outcome = true)
    (h' : generate ⟨j.config, j.template, options, output⟩ (.replay j.config) files
      (v, j.records m files s) = (.ok result', s'')) :
    Repeats result result' ∧ records ⟨j.config, j.template, options, output⟩ (.replay j.config)
      files (v, j.records m files s) = j.records m files s := by
  let j' : Job := ⟨j.config, j.template, options, output⟩
  have complete := nrReplayMissing_eq_zero h recorded
  obtain ⟨w₁, p, w₂, s₂, -, way, rfl, -, -⟩ := generate_eq_ok h
  obtain ⟨v₁, p', v₂, left, -, way', rfl, -, -⟩ := generate_eq_ok h'
  have ahead : Visits j' (.replay j.config) (specsOf files) (.start j.config)
      (v₁, (j.turns m files s).filterMap Turn.record? ++ [])
      (j'.turns (.replay j.config) files (v, j.records m files s)) p' (v₂, left) := by
    rw [List.append_nil]
    exact way'
  obtain ⟨rfl, -, same⟩ := way.replay (show j'.config = j.config from rfl) rfl recorded ahead
  exact ⟨⟨rfl, rfl, complete⟩, same⟩

/-- A replay reproduces the recorded run: what the run left in its output folder reads back, and a
replay of it over the same files, with any options, comes to the same mutants and counts. Into
whichever folder it goes, it leaves the same records and mutants there, unless something could not
be written. -/
theorem replay_reproduces {files : List SourceFile} {s s' : World × σ} {result : RunResult}
    {folder : Path} {r : Route} (output : j.output = some folder) (tree : s.1.IsTree)
    (takes : s.1.Takes (promptsAt r) folder r)
    (spared : ∀ q ∈ j.log m files s, Artifacts.Spared folder r q.before q.after)
    (recorded : ∀ q ∈ j.log m files s, isRecorded q.outcome = true)
    (h : j.generate m files s = (.ok result, s')) (fits : result.summary.Fits)
    (recordsFit : ∀ x ∈ j.records m files s, x.Fits) :
    let again (options : Options) (output : Option Path) (v : World) :=
      generate ⟨j.config, j.template, options, output⟩ (.replay j.config) files
        (v, j.records m files s)
    Recording.load s'.1 folder = .ok ⟨j.config, j.records m files s⟩ ∧
      (∀ options v, ∃ result' s'', again options none v = (.ok result', s'') ∧
        Repeats result result') ∧
      ∀ options folder' r' v result' s'', v.IsTree → v.Takes (promptsAt r') folder' r' →
        again options (some folder') v = (.ok result', s'') →
        Reproduces s'.1 folder r result s''.1 folder' r' result' := by
  intro again
  have finished := finished_of_generate output (tree.isSupported _) takes spared h
  have recorded : ∀ t ∈ j.turns m files s, isRecorded t.outcome = true := by
    rw [log_eq_turns] at recorded
    exact fun t ht => recorded _ (List.mem_map_of_mem ht)
  refine ⟨?_, ?_, ?_⟩
  · rw [← config_of_generate h]
    exact Recording.load_eq_ok finished fits recordsFit
  · intro options v
    have none_left : (⟨j.config, j.template, options, none⟩ : Job).output = none := rfl
    obtain ⟨result', s'', h'⟩ := exists_generate_of_no_output (m := .replay j.config) none_left
      files (v, j.records m files s)
    exact ⟨result', s'', h', (repeats_of_replay h recorded h').1⟩
  · intro options folder' r' v result' s'' tree' takes' h'
    have finished' := finished_of_generate rfl (tree'.isSupported _) takes'
      (spared_of_quiet (fun _ _ _ => rfl) h') h'
    obtain ⟨repeats, same⟩ := repeats_of_replay h recorded h'
    rw [same, repeats.mutants] at finished'
    exact {
      toRepeats := repeats
      mutantsFile := ⟨_, finished.read_mutantsPath, finished'.read_mutantsPath⟩
      located := ⟨finished.locate_promptsPath, finished'.locate_promptsPath⟩
      prompts := fun b => (finished'.entries b).trans (finished.entries b).symm }

/-- Of two prompts of the same text, one was answered and one failed; so it is in the replay. -/
theorem reproduces_equal_prompts :
    let file : SourceFile := ⟨"a.py", .python, "f(x)\n",
      [⟨.between "a.py" (1, 0) (1, 1), "f", "callee"⟩,
        ⟨.between "a.py" (1, 2) (1, 3), "x", "name"⟩]⟩
    let j : Job := ⟨Config.standard, "?", .none, some (.ofString "o")⟩
    let m := Model.scripted ⟨"m", .zero, 1, ""⟩
    let s : World × List (Except Failure Answer) := (⟨[], []⟩,
      [.error (.status 500 "busy"), .ok ⟨["\x60\x60\x60\ng\n\x60\x60\x60"], ⟨3, 4, 7⟩⟩])
    let r : Route := ⟨0, [], [Text.bytes "o"]⟩
    let r' : Route := ⟨0, [], [Text.bytes "o2"]⟩
    ∃ result s' result' s'', j.generate m [file] s = (.ok result, s') ∧
      (j.records m [file] s).map (·.text) = ["?", "?"] ∧
      generate ⟨j.config, j.template, .none, some (.ofString "o2")⟩ (.replay j.config) [file]
        (s'.1, j.records m [file] s) = (.ok result', s'') ∧
      result'.mutants.map (·.replacement) = ["g"] ∧
      Reproduces s'.1 (.ofString "o") r result s''.1 (.ofString "o2") r' result' := by
  intro file j m s r r'
  obtain ⟨result, s', h⟩ : ∃ result s', j.generate m [file] s = (.ok result, s') :=
    exists_generate_eq (by decide +kernel)
  have summary : (j.generate m [file] s).1.toOption.map (·.summary) =
      some { RunSummary.start Config.standard with
        nrPrompts := 2, nrCandidates := 1, nrMutants := 1, nrQueryFailed := 1
        usage := ⟨3, 4, 7⟩ } := by
    decide +kernel
  have replacements : (j.generate m [file] s).1.toOption.map (·.mutants.map (·.replacement)) =
      some ["g"] := by
    decide +kernel
  rw [h] at summary replacements
  have world : s'.1 = (j.generate m [file] s).2.1 := by rw [h]
  have tree : s.1.IsTree := by constructor <;> decide
  have tree' : s'.1.IsTree := by
    rw [world]
    constructor <;> decide +kernel
  have takes : s.1.Takes (promptsAt r) (.ofString "o") r :=
    Artifacts.takes_of_names (by decide) tree rfl (by decide)
  have takes' : s'.1.Takes (promptsAt r') (.ofString "o2") r' := by
    refine Artifacts.takes_of_names ?_ tree' ?_ (by decide)
    all_goals
      rw [world]
      decide +kernel
  have records : ∀ x ∈ j.records m [file] s, x.Fits := by
    have listed : j.records m [file] s =
        [⟨1, "?", .between "a.py" (1, 0) (1, 1), .failed⟩,
          ⟨2, "?", .between "a.py" (1, 2) (1, 3),
            .completed ⟨["\x60\x60\x60\ng\n\x60\x60\x60"], ⟨3, 4, 7⟩⟩⟩] := by
      decide +kernel
    rw [listed]
    simp only [List.forall_mem_cons, List.not_mem_nil, false_implies, implies_true, and_true]
    refine ⟨⟨by decide, ?_, trivial⟩, by decide, ?_, ?_⟩ <;> constructor <;> decide
  have fits : result.summary.Fits := by
    have summary : result.summary = _ := Option.some.inj summary
    rw [summary]
    exact RunSummary.fits_of_counts rfl (by decide) (by decide)
  obtain ⟨-, -, again⟩ := replay_reproduces (r := r) rfl tree takes
    (spared_of_quiet (Model.scripted_quiet _) h) (by decide +kernel) h fits records
  obtain ⟨result', s'', h'⟩ : ∃ result' s'', generate
      ⟨j.config, j.template, .none, some (.ofString "o2")⟩ (.replay j.config) [file]
        (s'.1, j.records m [file] s) = (.ok result', s'') := by
    rw [world]
    exact exists_generate_eq (by decide +kernel)
  have reproduces := again .none (.ofString "o2") r' s'.1 result' s'' tree' takes' h'
  refine ⟨result, s', result', s'', h, by decide +kernel, h', ?_, reproduces⟩
  rw [reproduces.mutants]
  exact Option.some.inj replacements

/-- A run that comes to its end and whose folder does not read back. -/
def IsLost (j : Job) (m : Model σ) (files : List SourceFile) (s : World × σ) (folder : Path) :
    Prop :=
  ∃ result s', j.generate m files s = (.ok result, s') ∧
    ∀ recording, Recording.load s'.1 folder ≠ .ok recording

theorem isLost_of_isBroken {files : List SourceFile} {s : World × σ} {folder : Path} (name : Bytes)
    (ends : (j.generate m files s).1.toOption.isSome = true)
    (broken : Artifacts.isBroken (j.generate m files s).2.1 folder name = true) :
    j.IsLost m files s folder := by
  obtain ⟨result, s', h⟩ := exists_generate_eq ends
  rw [h] at broken
  exact ⟨result, s', h, Recording.load_ne_ok broken⟩

/-- What a replay relies on: a model that keeps its answers among the records spoils them, and so
does an output folder whose path goes up from a folder that is not there yet or from one of its own
records, since clearing it then finds nothing to remove. -/
theorem isLost_of_cache_or_parent :
    let file : SourceFile := ⟨"a.py", .python, "f(a)\n",
      [⟨.between "a.py" (1, 2) (1, 3), "a", "f"⟩]⟩
    let into (folder : String) : Job := ⟨Config.standard, "\x7b\x7bcode\x7d\x7d", .none,
      some (.ofString folder)⟩
    let m := Model.scripted ⟨"m", .zero, 1, ""⟩
    let b : Address := [Text.bytes "b"]
    let prompts : Address := Text.bytes "prompts" :: b
    let left (e : Entry) : World :=
      ⟨[(b, .folder), (prompts, .folder), (Text.bytes "x.json" :: prompts, e)], []⟩
    (into "o").IsLost (m.cached (.ofString "o/prompts/x.json")) [file]
        (⟨[], []⟩, [.ok ⟨["x"], .zero⟩]) (.ofString "o") ∧
      (into "a/../b").IsLost m [] (left (.file (Text.bytes "x")), []) (.ofString "a/../b") ∧
      (into "b/prompts/x.json/../..").IsLost m [] (left .folder, [])
        (.ofString "b/prompts/x.json/../..") := by
  intro file into m b prompts left
  refine ⟨?_, ?_, ?_⟩ <;>
    exact isLost_of_isBroken (Text.bytes "x.json") (by decide +kernel) (by decide +kernel)

end Job

end Mutagenesis
