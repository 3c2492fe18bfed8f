import Mutagenesis.Proofs.Run.Frame
import Mutagenesis.Proofs.Run.Mutants
import Mutagenesis.Proofs.Run.Plan
import Mutagenesis.Proofs.Run.Replay

/-!
# The output folder describes the run

After a run that comes to its end, the summary, the mutants and the records that are read from its
output folder are those of this run, whatever the folder held before: one record for each prompt of
the plan that was answered or has failed, and none of an earlier run.
-/
namespace Mutagenesis

open Files (Address Entry World Route)
open Artifacts (Recorded Finished promptsAt IsOther)

/-- Whether a record tells of a prompt and what came of it. -/
structure PromptRecord.TellsOf (x : PromptRecord) (prompt : Prompt)
    (outcome : Except Failure Answer) : Prop where
  id : x.id = prompt.id
  text : x.text = prompt.text
  location : x.location = prompt.spec.location
  outcome : x.outcome = match outcome with
    | .ok answer => .completed answer
    | .error _ => .failed

/-- What is read from the output folder of a run: its summary, its mutants and, in the order of
their numbers, a record for each prompt that a replay has not left unanswered. Nothing else stands
among the records. -/
structure Artifacts.Describes (w : World) (folder : Path) (r : Route)
    (issued : List (Prompt × Except Failure Answer)) (result : RunResult) : Prop where
  summary : loadSummary w folder = .ok result.summary
  mutants : loadMutants w folder = .ok result.mutants
  records : ∃ records, loadRecords w folder = .ok records ∧ records.Pairwise (·.id < ·.id) ∧
    List.Forall₂ (fun x (prompt, outcome) => x.TellsOf prompt outcome) records
      (issued.filter fun (_, outcome) => Job.isRecorded outcome) ∧
    ∀ b, w.get? (b ++ promptsAt r) ≠ none → b = [] ∨ ∃ x ∈ records, b = [recordName x.id]

/-- The mutants read back as they were written. -/
theorem Artifacts.Finished.loadMutants_eq_ok {w : World} {folder : Path} {r : Route} {made : Bool}
    {records : List PromptRecord} {ms : List Mutant} {s : RunSummary}
    (h : Finished w folder r made records ms s) (fits : ∀ m ∈ ms, m.Fits) :
    loadMutants w folder = .ok ms :=
  readJson_eq_ok h.takes isName_mutantsName h.usableMutants h.passes (by decide) h.mutants
    (Json.written_listOf fun m hm => Mutant.written (fits m hm))

/-- Among the records of a folder stands nothing but their files. -/
theorem Artifacts.Recorded.mem_of_get? {w : World} {folder : Path} {r : Route} {made : Bool}
    {records : List PromptRecord} (h : Recorded w folder r made records) {b : Address}
    (found : w.get? (b ++ promptsAt r) ≠ none) : b = [] ∨ ∃ x ∈ records, b = [recordName x.id] := by
  rw [h.entries] at found
  match b with
  | [] => exact .inl rfl
  | [name] =>
      obtain ⟨x, hx⟩ := Option.ne_none_iff_exists'.1 (mt Option.map_eq_none_iff.2 found)
      exact .inr ⟨x, List.mem_of_find?_eq_some hx, by simpa [eq_comm] using List.find?_some hx⟩
  | _ :: _ :: _ => simp [recordsAt] at found

namespace Job

variable {σ : Type} {j : Job} {m : Model σ} {folder : Path} {r : Route}

/-- A turn leaves a record that tells of it, unless a replay had no answer. -/
theorem forall₂_record? (ts : List Turn) :
    List.Forall₂ (fun x (prompt, outcome) => PromptRecord.TellsOf x prompt outcome)
      (ts.filterMap Turn.record?)
      ((ts.map fun t => (t.prompt, t.outcome)).filter fun (_, outcome) => isRecorded outcome) := by
  induction ts with
  | nil => exact .nil
  | cons t ts ih =>
      obtain ⟨file, prompt, outcome, w, w'⟩ := t
      cases outcome with
      | ok answer =>
          have tells : PromptRecord.TellsOf
              ⟨prompt.id, prompt.text, prompt.spec.location, .completed answer⟩ prompt
              (.ok answer) := ⟨rfl, rfl, rfl, rfl⟩
          simpa [Turn.record?, recordOf?, isRecorded] using And.intro tells ih
      | error failure =>
          cases missing : failure.isUnrecorded with
          | true => simpa [Turn.record?, recordOf?, isRecorded, missing] using ih
          | false =>
              have tells : PromptRecord.TellsOf
                  ⟨prompt.id, prompt.text, prompt.spec.location, .failed⟩ prompt
                  (.error failure) := ⟨rfl, rfl, rfl, rfl⟩
              simpa [Turn.record?, recordOf?, isRecorded, missing] using And.intro tells ih

/-- The prompts of a plan are for specifications of the files and numbered by them. -/
theorem mem_plan {files : List SourceFile} {prompt : Prompt} (h : prompt ∈ j.plan files) :
    prompt.id ≤ (specsOf files).length ∧ ∃ x ∈ specsOf files, prompt.spec = x.2 := by
  obtain ⟨⟨x, n⟩, hx, made⟩ := List.mem_filterMap.1 h
  have numbered := (List.mem_filter.1 (List.mem_of_mem_take hx)).1
  obtain ⟨-, below, hget⟩ := List.mem_zipIdx numbered
  obtain ⟨code, -, rfl⟩ := Option.map_eq_some_iff.1 made
  refine ⟨(Nat.lt_one_add_iff.1 below).trans (List.length_filter_le _ _), x, ?_, rfl⟩
  rw [hget]
  exact (List.mem_filter.1 (List.getElem_mem _)).1

/-- Whether the numbers fit their words that a run takes from its files and its answers. -/
structure GivenFits (j : Job) (m : Model σ) (files : List SourceFile) (s : World × σ) : Prop where
  locations : ∀ x ∈ specsOf files, x.2.location.Fits
  few : (specsOf files).length ≤ 0xFFFFFFFFFFFFFFFF
  usages : ∀ q ∈ j.log m files s, ∀ answer, q.outcome = .ok answer → answer.usage.Fits

section

variable {files : List SourceFile} {s s' : World × σ} {result : RunResult}
  (h : j.generate m files s = (.ok result, s')) (given : j.GivenFits m files s)
include h given

theorem fits_of_mem_turns {t : Turn} (ht : t ∈ j.turns m files s) :
    t.prompt.id ≤ 0xFFFFFFFFFFFFFFFF ∧ t.prompt.spec.location.Fits := by
  have planned : t.prompt ∈ j.plan files := prompts_eq_plan h ▸ List.mem_map_of_mem ht
  obtain ⟨small, x, hx, spec⟩ := mem_plan planned
  exact ⟨small.trans given.few, spec ▸ given.locations x hx⟩

theorem records_fit : ∀ x ∈ j.records m files s, x.Fits := by
  intro x hx
  obtain ⟨t, ht, hrecord⟩ := List.mem_filterMap.1 hx
  obtain ⟨id, location⟩ := fits_of_mem_turns h given ht
  have usages := given.usages
  rw [log_eq_turns, List.forall_mem_map] at usages
  unfold Turn.record? recordOf? at hrecord
  split at hrecord
  next answer answered =>
    obtain rfl := Option.some.inj hrecord
    exact ⟨id, location, usages t ht answer answered⟩
  next =>
    split at hrecord
    next => simp at hrecord
    next =>
      obtain rfl := Option.some.inj hrecord
      exact ⟨id, location, trivial⟩

theorem mutants_fit : ∀ mutant ∈ result.mutants, mutant.Fits := by
  obtain ⟨_, p, _, _, -, way, rfl, -, -⟩ := generate_eq_ok h
  intro mutant hmutant
  simp only [way.mutants_eq, Progress.start, List.nil_append] at hmutant
  obtain ⟨t, ht, hmem⟩ := List.mem_flatMap.1 hmutant
  obtain ⟨id, location⟩ := fits_of_mem_turns h given ht
  refine ⟨location_of_mem_mutantsOf hmem ▸ location, ?_⟩
  obtain ⟨c, -, -, rfl⟩ := mem_mutantsOf hmem
  exact id

end

/-- After a run that comes to its end, its output folder describes this run and nothing else,
whatever it held before, and what else is in the folder is as the queries leave it. -/
theorem output_describes_run {files : List SourceFile} {s s' : World × σ} {result : RunResult}
    (output : j.output = some folder) (tree : s.1.IsTree)
    (takes : s.1.Takes (promptsAt r) folder r)
    (spared : ∀ q ∈ j.log m files s, Artifacts.Spared folder r q.before q.after)
    (h : j.generate m files s = (.ok result, s')) (fits : result.summary.Fits)
    (given : j.GivenFits m files s) :
    let outcomes := (j.log m files s).map (·.outcome)
    (j.log m files s).map (·.text) = (j.plan files).map (·.text) ∧
      Artifacts.Describes s'.1 folder r ((j.plan files).zip outcomes) result ∧
      ∀ a, IsOther r a → (∀ q ∈ j.log m files s, q.after.get? a = q.before.get? a) →
        s'.1.get? a = s.1.get? a := by
  intro outcomes
  have finished := finished_of_generate output (tree.isSupported _) takes spared h
  have issued : (j.plan files).zip outcomes =
      (j.turns m files s).map fun t => (t.prompt, t.outcome) := by
    simp only [outcomes, log_eq_turns, ← prompts_eq_plan h, List.map_map, List.zip_map']
    rfl
  refine ⟨?_, ⟨finished.loadSummary_eq_ok fits, finished.loadMutants_eq_ok (mutants_fit h given),
    j.records m files s, finished.loadRecords_eq_ok rfl (records_fit h given), finished.increasing,
    ?_, fun b => finished.mem_of_get?⟩, fun a other same =>
      get?_of_generate output tree takes spared h other same⟩
  · rw [log_eq_turns, ← prompts_eq_plan h, List.map_map, List.map_map]
    rfl
  · rw [issued]
    exact forall₂_record? (j.turns m files s)

/-- Into a folder with a record and mutants that cannot be read, a run of three prompts, of which a
replay would have no answer to the first, writes two records, and a file beside them stays. -/
theorem describes_run_over_leftovers :
    let file : SourceFile := ⟨"a.py", .python, "f(x)\n",
      [⟨.between "a.py" (1, 0) (1, 1), "f", "callee"⟩,
        ⟨.between "a.py" (1, 2) (1, 3), "x", "name"⟩,
        ⟨.between "a.py" (1, 0) (1, 4), "f(x)", "call"⟩]⟩
    let j : Job := ⟨Config.standard, "\x7b\x7borig\x7d\x7d", .none, some (.ofString "o")⟩
    let m := Model.scripted ⟨"m", .zero, 1, ""⟩
    let r : Route := ⟨0, [], [Text.bytes "o"]⟩
    let w : World := ⟨[(r.address, .folder), (promptsAt r, .folder),
      (Text.bytes "x.json" :: promptsAt r, .file (Text.bytes "x")),
      (Text.bytes "mutants.json" :: r.address, .file (Text.bytes "?")),
      (Text.bytes "notes" :: r.address, .file (Text.bytes "kept"))], []⟩
    let outcomes : List (Except Failure Answer) := [.error (.unrecorded "f"),
      .ok ⟨["\x60\x60\x60\ny\n\x60\x60\x60"], ⟨3, 4, 7⟩⟩, .error (.status 500 "busy")]
    ∃ result s', j.generate m [file] (w, outcomes) = (.ok result, s') ∧
      (j.plan [file]).map (·.id) = [1, 2, 3] ∧
      Artifacts.Describes s'.1 (.ofString "o") r ((j.plan [file]).zip outcomes) result ∧
      s'.1.get? (Text.bytes "notes" :: r.address) = some (.file (Text.bytes "kept")) := by
  intro file j m r w outcomes
  obtain ⟨result, s', h⟩ : ∃ result s', j.generate m [file] (w, outcomes) = (.ok result, s') :=
    exists_generate_eq (by decide +kernel)
  have summary : (j.generate m [file] (w, outcomes)).1.toOption.map (·.summary) =
      some { RunSummary.start Config.standard with
        nrPrompts := 3, nrCandidates := 1, nrMutants := 1, nrQueryFailed := 1, nrReplayMissing := 1
        usage := ⟨3, 4, 7⟩ } := by
    decide +kernel
  rw [h] at summary
  have fits : result.summary.Fits := by
    have same : result.summary = _ := Option.some.inj summary
    rw [same]
    exact RunSummary.fits_of_counts rfl (by decide) (by decide)
  have said : (j.log m [file] (w, outcomes)).map (·.outcome) = outcomes := by decide +kernel
  have given : j.GivenFits m [file] (w, outcomes) := by
    have usages : ∀ o ∈ outcomes, ∀ answer, o = .ok answer → answer.usage.Fits := by
      simp only [outcomes, List.forall_mem_cons, Except.ok.injEq, reduceCtorEq]
      exact ⟨by simp, by rintro _ rfl; decide, by simp, by simp⟩
    refine ⟨by decide, by decide, fun q hq => usages _ ?_⟩
    rw [← said]
    exact List.mem_map_of_mem hq
  have tree : w.IsTree := by constructor <;> decide
  have takes : w.Takes (promptsAt r) (.ofString "o") r :=
    Artifacts.takes_of_names (by decide) tree rfl (by decide)
  obtain ⟨-, describes, same⟩ := output_describes_run rfl tree takes
    (spared_of_quiet (Model.scripted_quiet _) h) h fits given
  rw [said] at describes
  refine ⟨result, s', h, by decide, describes, ?_⟩
  have other : IsOther r (Text.bytes "notes" :: r.address) :=
    ⟨⟨[Text.bytes "notes"], by decide, rfl⟩, by decide, by decide, by decide⟩
  rw [same _ other fun q hq => by rw [after_eq_before_of_quiet (Model.scripted_quiet _) h q hq]]
  decide

/-- A run that comes to its end and leaves files of which something holds. -/
def Leaves (j : Job) (m : Model σ) (files : List SourceFile) (s : World × σ)
    (holds : World → Prop) : Prop :=
  ∃ result s', j.generate m files s = (.ok result, s') ∧ holds s'.1

theorem leaves_of_ends {files : List SourceFile} {s : World × σ} {holds : World → Prop}
    (ends : (j.generate m files s).1.toOption.isSome = true)
    (left : holds (j.generate m files s).2.1) : j.Leaves m files s holds := by
  obtain ⟨result, s', h⟩ := exists_generate_eq ends
  rw [h] at left
  exact ⟨result, s', h, left⟩

/-- A single record is read from the file in which it is kept, whatever the name of the file. -/
theorem loadRecords_of_single {w : World} {name : Bytes} {x : PromptRecord}
    (listed : w.list (Artifacts.promptsPath folder) = .ok [name])
    (isRecord : Artifacts.isRecordName name = true)
    (read : Artifacts.readJson w ((Artifacts.promptsPath folder).join ⟨name⟩)
      PromptRecord.decoder = .ok x) :
    Artifacts.loadRecords w folder = .ok [x] := by
  simp [Artifacts.loadRecords, listed, isRecord, read, bind, Except.bind, pure, Except.pure]

/-- What the description relies on: a cache among the records makes them unreadable, and one beside
them is a change of the folder; an output folder whose path goes up from a folder that is not there
yet keeps a record of an earlier run, and one whose path goes through its own records makes a folder
among them; and a run without prompts takes the folder of records away. -/
theorem not_describes_of_cache_or_parent :
    let file : SourceFile := ⟨"a.py", .python, "f(a)\n",
      [⟨.between "a.py" (1, 2) (1, 3), "a", "f"⟩]⟩
    let into (folder : String) : Job := ⟨Config.standard, "\x7b\x7bcode\x7d\x7d", .none,
      some (.ofString folder)⟩
    let m := Model.scripted ⟨"m", .zero, 1, ""⟩
    let answers : List (Except Failure Answer) := [.ok ⟨["x"], .zero⟩]
    let b : Route := ⟨0, [], [Text.bytes "b"]⟩
    let stale : PromptRecord := ⟨7, "t", .between "a.py" (1, 0) (1, 1), .failed⟩
    let left (e : Entry) : World := ⟨[(b.address, .folder), (promptsAt b, .folder),
      (Text.bytes "x.json" :: promptsAt b, e)], []⟩
    let old := left (.file (Text.bytes stale.toJson.page))
    (into "o").Leaves (m.cached (.ofString "o/prompts/x.json")) [file] (⟨[], []⟩, answers)
        (fun w => ∀ records, Artifacts.loadRecords w (.ofString "o") ≠ .ok records) ∧
      (into "o").Leaves (m.cached (.ofString "o/cache")) [file] (⟨[], []⟩, answers)
        (fun w => w.get? [Text.bytes "cache", Text.bytes "o"] = some .folder) ∧
      (into "a/../b").Leaves m [] (old, [])
        (fun w => Artifacts.loadRecords w (.ofString "a/../b") = .ok [stale]) ∧
      (into "b/prompts/x.json/../..").Leaves m [] (left .folder, [])
        (fun w => ∀ records,
          Artifacts.loadRecords w (.ofString "b/prompts/x.json/../..") ≠ .ok records) ∧
      (into "b").Leaves m [] (old, []) (fun w => w.get? (promptsAt b) = none) := by
  intro file into m answers b stale left old
  refine ⟨?_, ?_, ?_, ?_, ?_⟩
  · have broken : Artifacts.isBroken ((into "o").generate (m.cached (.ofString "o/prompts/x.json"))
        [file] (⟨[], []⟩, answers)).2.1 (.ofString "o") (Text.bytes "x.json") = true := by
      decide +kernel
    exact leaves_of_ends (by decide +kernel) (Artifacts.loadRecords_ne_ok broken)
  · exact leaves_of_ends (by decide +kernel) (by decide +kernel)
  · have staleFits : stale.Fits := ⟨by decide, by decide, trivial⟩
    have read : ((into "a/../b").generate m [] (old, [])).2.1.read
        ((Artifacts.promptsPath (.ofString "a/../b")).join ⟨Text.bytes "x.json"⟩) =
          .ok (Text.bytes stale.toJson.page) := eq_ok_of_toOption (by decide +kernel)
    exact leaves_of_ends (by decide +kernel)
      (loadRecords_of_single (eq_ok_of_toOption (by decide +kernel)) (by decide)
        (Artifacts.readJson_of_read read (PromptRecord.written staleFits)))
  · have broken : Artifacts.isBroken ((into "b/prompts/x.json/../..").generate m []
        (left .folder, [])).2.1 (.ofString "b/prompts/x.json/../..") (Text.bytes "x.json") =
          true := by
      decide +kernel
    exact leaves_of_ends (by decide +kernel) (Artifacts.loadRecords_ne_ok broken)
  · exact leaves_of_ends (by decide +kernel) (by decide +kernel)

end Job

end Mutagenesis
