import Mutagenesis.Proofs.Json.Bounds
import Mutagenesis.Proofs.Run.Confined
import Mutagenesis.Proofs.Run.Lockstep
import Mutagenesis.Proofs.Run.Output

/-!
# Replays of replays

A replay has no answer to a prompt when no record of its text is left, and leaves the same gap among
its own records. Records are only ever given out, so a text that is missing once is missing for the
rest of the run: none of the records after a gap is of its text, and the replay of the replay meets
the gap at the same prompt. So it comes to the same result, gaps and failures included, and leaves
the same files.
-/
namespace Mutagenesis

open Files (Address Entry World Route)
open Artifacts (Finished promptsAt)

/-- What a replay says of a prompt with a record. -/
def Outcome.replay : Outcome → Except Failure Answer
  | completed answer => .ok answer
  | failed => .error .recorded

theorem Outcome.isRecorded_replay (o : Outcome) : Job.isRecorded o.replay = true := by
  cases o <;> rfl

theorem Outcome.replayed_replay (o : Outcome) : Job.replayed o.replay = o.replay := by
  cases o <;> rfl

namespace Recording

variable {text : String} {records rest later : List PromptRecord}

theorem take?_eq_none_iff : take? text records = none ↔ ∀ x ∈ records, x.text ≠ text := by
  induction records with
  | nil => simp [take?]
  | cons x xs ih => by_cases same : x.text = text <;> simp [take?, same, ih]

/-- The record that is taken is the first one of the text, and the others are left in their
order. -/
theorem split_of_take?_eq_some {o : Outcome} (h : take? text records = some (o, rest)) :
    ∃ before x after, records = before ++ x :: after ∧ (∀ y ∈ before, y.text ≠ text) ∧
      x.text = text ∧ x.outcome = o ∧ rest = before ++ after := by
  induction records generalizing rest with
  | nil => simp [take?] at h
  | cons x xs ih =>
      by_cases same : x.text = text
      · simp only [take?, same, if_true, Option.some.injEq, Prod.mk.injEq] at h
        obtain ⟨rfl, rfl⟩ := h
        exact ⟨[], x, xs, rfl, by simp, same, rfl, rfl⟩
      · simp only [take?, same, if_false, Option.map_eq_some_iff, Prod.mk.injEq] at h
        obtain ⟨⟨o', left⟩, taken, rfl, rfl⟩ := h
        obtain ⟨before, y, after, rfl, others, ofText, outcome, rfl⟩ := ih taken
        exact ⟨x :: before, y, after, rfl, List.forall_mem_cons.2 ⟨same, others⟩, ofText, outcome,
          rfl⟩

/-- What a replay says stands in a record of the text, or there is none; and nothing comes to the
records that are left. -/
theorem answer_cases {outcome : Except Failure Answer} (h : answer text records = (outcome, rest)) :
    rest.Sublist records ∧
      ((∃ x ∈ records, x.text = text ∧ x.outcome.replay = outcome) ∨
        outcome = .error (.unrecorded (String.ofList (text.toList.take headLength))) ∧
          ∀ x ∈ records, x.text ≠ text) := by
  cases taken : take? text records with
  | none =>
      simp only [answer, taken, Prod.mk.injEq] at h
      obtain ⟨rfl, rfl⟩ := h
      exact ⟨List.Sublist.refl _, .inr ⟨rfl, take?_eq_none_iff.1 taken⟩⟩
  | some found =>
      obtain ⟨o, left⟩ := found
      obtain ⟨before, x, after, rfl, -, ofText, rfl, rfl⟩ := split_of_take?_eq_some taken
      have said : answer text (before ++ x :: after) = (x.outcome.replay, before ++ after) := by
        rw [answer, taken]
        cases x.outcome <;> rfl
      obtain ⟨rfl, rfl⟩ := Prod.mk.inj (said.symm.trans h)
      exact ⟨(List.sublist_cons_self x after).append_left before,
        .inl ⟨x, List.mem_append_cons_self, ofText, rfl⟩⟩

/-- What a replay has answered it answers again from its own records, when those that come later
are of texts that were still there. -/
theorem answer_again {prompt : Prompt} {outcome : Except Failure Answer}
    (h : answer prompt.text records = (outcome, rest))
    (there : ∀ x ∈ later, ∃ y ∈ rest, y.text = x.text) :
    answer prompt.text ((Job.recordOf? prompt outcome).toList ++ later) = (outcome, later) := by
  obtain ⟨kept, ⟨x, -, -, rfl⟩ | ⟨rfl, absent⟩⟩ := answer_cases h
  · obtain ⟨y, hy⟩ := Job.exists_recordOf? prompt x.outcome.isRecorded_replay
    rw [hy, Option.toList_some, List.singleton_append, Job.answer_of_recordOf? hy,
      x.outcome.replayed_replay]
  · have gone : take? prompt.text later = none := by
      refine take?_eq_none_iff.2 fun x hx => ?_
      obtain ⟨y, hy, same⟩ := there x hx
      exact same ▸ absent y (kept.subset hy)
    simp [Job.recordOf?, Failure.isUnrecorded, answer, gone]

/-- What is so of all that a decoder makes is so of what it makes of a file. -/
theorem makes_readJson {α : Type} {d : Json.Decoder α} {P : α → Prop} (w : World) (p : Path)
    (each : ∀ found, Makes (d found) P) : Makes (Artifacts.readJson w p d) P := by
  unfold Artifacts.readJson
  split
  next => exact .error _ _
  next text _ => exact (Json.makes_decode each text).mapError

/-- The records of a run that has been read fit their words. -/
theorem fits_of_load {w : World} {folder : Path} {recording : Recording}
    (h : load w folder = .ok recording) : ∀ x ∈ recording.records, x.Fits := by
  have all : Makes (Artifacts.loadRecords w folder) fun records => ∀ x ∈ records, x.Fits := by
    unfold Artifacts.loadRecords
    dsimp only
    split
    next => exact .ok (by simp)
    next => exact .error _ _
    next names _ =>
      refine Makes.bind (P := fun records => ∀ x ∈ records, x.Fits) ?_ fun records fit => ?_
      · intro records read x hx
        obtain ⟨name, -, made⟩ := exists_of_forall₂ (mapM_eq_ok.1 read) hx
        exact makes_readJson w _ PromptRecord.makes_decoder x made
      · exact .ok fun x hx => fit x (List.mem_mergeSort.1 hx)
  exact (Makes.bind (Makes.any _) fun summary _ => all.bind fun records fit =>
    .ok (a := Recording.mk summary.config records)
      (P := fun recording => ∀ x ∈ recording.records, x.Fits) fit) recording h

end Recording

/-- A query of a replay is answered from its records and changes no file. -/
theorem Model.query_replay {c : Config} {text : String} {options : Options} {w w' : World}
    {records rest : List PromptRecord} {outcome : Except Failure Answer}
    (h : (replay c).query text options (w, records) = (outcome, w', rest)) :
    w' = w ∧ Recording.answer text records = (outcome, rest) := by
  obtain ⟨rfl, same⟩ := Prod.mk.inj h
  obtain ⟨rfl, rfl⟩ := Prod.mk.inj same
  exact ⟨rfl, rfl⟩

namespace Job

variable {j j' : Job} {c c' : Config}

theorem text_of_recordOf? {prompt : Prompt} {outcome : Except Failure Answer} {x : PromptRecord}
    (h : recordOf? prompt outcome = some x) : x.text = prompt.text := by
  cases outcome with
  | ok answer => exact (Option.some.inj h) ▸ rfl
  | error failure =>
      cases missing : failure.isUnrecorded with
      | true => simp [recordOf?, missing] at h
      | false =>
          simp only [recordOf?, missing, Bool.false_eq_true, if_false, Option.some.injEq] at h
          exact h ▸ rfl

section Way

variable {specs : List (SourceFile × PromptSpec)} {p p' : Progress}
  {s s' : World × List PromptRecord} {ts : List Turn}

/-- In every turn of a replay its model is asked with some of the records. -/
theorem Visits.exists_answer (way : Visits j (.replay c) specs p s ts p' s') :
    ∀ t ∈ ts, ∃ records rest, records.Sublist s.2 ∧
      Recording.answer t.prompt.text records = (t.outcome, rest) := by
  induction way with
  | done | full => simp
  | unfit _ _ _ ih | filtered _ _ _ _ ih => exact ih
  | @asked file spec more p s ts p' s' code outcome s₁ w₂ _ _ _ answer _ _ ih =>
      obtain ⟨-, answered⟩ := Model.query_replay answer
      have kept := (Recording.answer_cases answered).1
      refine List.forall_mem_cons.2 ⟨⟨s.2, s₁.2, List.Sublist.refl _, answered⟩, fun t ht => ?_⟩
      obtain ⟨records, rest, sub, answered⟩ := ih t ht
      exact ⟨records, rest, sub.trans kept, answered⟩

/-- The records that a replay leaves are of texts that it had records of. -/
theorem Visits.exists_text (way : Visits j (.replay c) specs p s ts p' s') :
    ∀ x ∈ ts.filterMap Turn.record?, ∃ y ∈ s.2, y.text = x.text := by
  intro x hx
  obtain ⟨t, ht, record⟩ := List.mem_filterMap.1 hx
  obtain ⟨records, rest, sub, answered⟩ := way.exists_answer t ht
  obtain ⟨y, hy, same, -⟩ | ⟨unrecorded, -⟩ := (Recording.answer_cases answered).2
  · exact ⟨y, sub.subset hy, same.trans (text_of_recordOf? record).symm⟩
  · simp [Turn.record?, unrecorded, recordOf?, Failure.isUnrecorded] at record

/-- Each answer of a replay stands in one of its records. -/
theorem Visits.exists_completed (way : Visits j (.replay c) specs p s ts p' s') {t : Turn}
    (ht : t ∈ ts) {answer : Answer} (ok : t.outcome = .ok answer) :
    ∃ x ∈ s.2, x.outcome = .completed answer := by
  obtain ⟨records, rest, sub, answered⟩ := way.exists_answer t ht
  obtain ⟨x, hx, -, same⟩ | ⟨unrecorded, -⟩ := (Recording.answer_cases answered).2
  · refine ⟨x, sub.subset hx, ?_⟩
    cases outcome : x.outcome <;> simp_all [Outcome.replay]
  · simp [unrecorded] at ok

end Way

/-- A replay keeps in step with the replay whose records it has. -/
theorem steps_replay (c c' : Config) (j j' : Job) :
    Steps j j' (.replay c) (.replay c') (fun ts _ v => v.2 = ts.filterMap Turn.record?)
      fun _ => True where
  known _ := trivial
  asked {t ts s s₁ w₂ v v₁ outcome _ _ _ _} related answer _ rest said := by
    obtain ⟨-, answered⟩ := Model.query_replay answer
    obtain ⟨-, answered'⟩ := Model.query_replay said
    have head : (t :: ts).filterMap Turn.record? =
        (recordOf? t.prompt t.outcome).toList ++ ts.filterMap Turn.record? := by
      rw [List.filterMap_cons, Turn.record?]
      cases recordOf? t.prompt t.outcome <;> rfl
    rw [related, head, Recording.answer_again answered rest.exists_text] at answered'
    obtain ⟨rfl, same⟩ := Prod.mk.inj answered'
    exact ⟨rfl, trivial, fun _ _ => same.symm⟩

/-- Turns that are alike leave the same records. -/
theorem filterMap_record?_of_alike {ts ts' : List Turn} (h : List.Forall₂ Turn.Alike ts ts') :
    ts'.filterMap Turn.record? = ts.filterMap Turn.record? := by
  induction h with
  | nil => rfl
  | cons alike _ ih =>
      simp only [List.filterMap_cons, Turn.record?, alike.prompt, alike.outcome, ih]

/-- A replay of the records of a replay comes to the same result and leaves the same records. -/
theorem eq_of_replay_again {files : List SourceFile} {s s' v v' : World × List PromptRecord}
    {result result' : RunResult} (hconfig : j'.config = j.config)
    (htemplate : j'.template = j.template)
    (h : j.generate (.replay c) files s = (.ok result, s'))
    (h' : j'.generate (.replay c') files v = (.ok result', v'))
    (left : v.2 = j.records (.replay c) files s) :
    result' = result ∧ j'.records (.replay c') files v = j.records (.replay c) files s := by
  obtain ⟨-, -, same⟩ := generate_lockstep hconfig htemplate (steps_replay c c' j j') h h' trivial
    fun _ _ => left
  obtain ⟨rfl, alike⟩ := same result' rfl
  refine ⟨?_, filterMap_record?_of_alike alike⟩
  have failures : result.summary.failures = .zero := failures_of_generate h
  have unchanged : result.summary.setFailures .zero = result.summary := by
    rw [RunSummary.setFailures, ← failures]
  exact congrArg (RunResult.mk · result.mutants) unchanged

/-- The numbers fit that a replay takes from a run that has been read. -/
theorem givenFits_of_load {w : World} {folder : Path} {recording : Recording}
    (loaded : Recording.load w folder = .ok recording) {files : List SourceFile}
    (locations : ∀ x ∈ specsOf files, x.2.location.Fits)
    (few : (specsOf files).length ≤ 0xFFFFFFFFFFFFFFFF) {result : RunResult}
    {s' : World × List PromptRecord}
    (h : j.generate (.replay c) files (w, recording.records) = (.ok result, s')) :
    j.GivenFits (.replay c) files (w, recording.records) := by
  refine ⟨locations, few, ?_⟩
  obtain ⟨_, _, _, _, -, way, -, -, -⟩ := generate_eq_ok h
  rw [log_eq_turns, List.forall_mem_map]
  intro t ht answer ok
  obtain ⟨x, hx, completed⟩ := way.exists_completed ht ok
  have fit := (Recording.fits_of_load loaded x hx).outcome
  rwa [completed] at fit

/-- Whether two output folders hold the same mutants, the same summary and the same records. -/
structure SameOutput (w : World) (r r' : Route) : Prop where
  mutants : ∃ content, w.get? (Text.bytes Artifacts.mutantsName :: r.address) =
      some (.file content) ∧
    w.get? (Text.bytes Artifacts.mutantsName :: r'.address) = some (.file content)
  summary : ∃ content, w.get? (Text.bytes Artifacts.summaryName :: r.address) =
      some (.file content) ∧
    w.get? (Text.bytes Artifacts.summaryName :: r'.address) = some (.file content)
  prompts : ∀ b, w.get? (b ++ promptsAt r') = w.get? (b ++ promptsAt r)

/-- A run that leaves what an earlier run has left leaves it beside the earlier one, when the two
folders lie apart. -/
theorem sameOutput_of_confined {w w' : World} {folder folder' : Path} {r r' : Route}
    {made : Bool} {records : List PromptRecord} {ms : List Mutant} {summary : RunSummary}
    (finished : Finished w folder r made records ms summary)
    (confined : Artifacts.Confined r' w w') (apart : Artifacts.IsApart r r')
    (finished' : Finished w' folder' r' made records ms summary) : SameOutput w' r r' where
  mutants := ⟨_, (confined.get?_of_isApart apart [_]).trans finished.mutants, finished'.mutants⟩
  summary := ⟨_, (confined.get?_of_isApart apart [_]).trans finished.summary, finished'.summary⟩
  prompts b := by
    have same : w'.get? (b ++ promptsAt r) = w.get? (b ++ promptsAt r) := by
      simpa [promptsAt] using
        confined.get?_of_isApart apart (b ++ [Text.bytes Artifacts.promptsName])
    rw [same, finished.entries, finished'.entries]

/-- A replay of a replay changes nothing, whatever records the first one has found and missed: what
the first replay leaves in its output folder reads back, and a replay of it over the same files,
into a folder apart, comes to the same result and leaves the same files, from which it can be
replayed again. -/
theorem replay_of_replay {w : World} {folder : Path} {recording : Recording}
    (loaded : Recording.load w folder = .ok recording) {template : String} {options : Options}
    {files : List SourceFile} (locations : ∀ x ∈ specsOf files, x.2.location.Fits)
    (few : (specsOf files).length ≤ 0xFFFFFFFFFFFFFFFF) {folder₁ : Path} {r₁ : Route}
    (tree : w.IsTree) (takes : w.Takes (promptsAt r₁) folder₁ r₁) {result : RunResult}
    {s : World × List PromptRecord}
    (h : generate ⟨recording.config, template, options, some folder₁⟩ (.replay recording.config)
      files (w, recording.records) = (.ok result, s)) (fits : result.summary.Fits) :
    let again : Recording := ⟨recording.config,
      records ⟨recording.config, template, options, some folder₁⟩ (.replay recording.config) files
        (w, recording.records)⟩
    Recording.load s.1 folder₁ = .ok again ∧
      ∀ options₂ folder₂ r₂ result₂ s₂, s.1.Takes (promptsAt r₂) folder₂ r₂ →
        Artifacts.IsApart r₁ r₂ →
        generate ⟨again.config, template, options₂, some folder₂⟩ (.replay again.config) files
          (s.1, again.records) = (.ok result₂, s₂) →
        result₂ = result ∧ Recording.load s₂.1 folder₂ = .ok again ∧ SameOutput s₂.1 r₁ r₂ := by
  let j : Job := ⟨recording.config, template, options, some folder₁⟩
  intro again
  have given := givenFits_of_load loaded locations few h
  have recordsFit : ∀ x ∈ again.records, x.Fits := records_fit h given
  have finished : Finished s.1 folder₁ r₁ (!again.records.isEmpty) again.records result.mutants
      result.summary :=
    finished_of_generate rfl (tree.isSupported _) takes (spared_of_quiet (fun _ _ _ => rfl) h) h
  have config : result.summary.config = recording.config := config_of_generate h
  refine ⟨?_, ?_⟩
  · rw [Recording.load_eq_ok finished fits recordsFit, config]
  · intro options₂ folder₂ r₂ result₂ s₂ takes₂ apart h₂
    let j₂ : Job := ⟨recording.config, template, options₂, some folder₂⟩
    have h₂ : j₂.generate (.replay recording.config) files (s.1, again.records) =
      (.ok result₂, s₂) := h₂
    have confined₁ : Artifacts.Confined r₁ w s.1 :=
      confined_of_generate (j := j) rfl (fun _ _ _ => rfl) takes h
    have finished₂ := finished_of_generate (j := j₂) (s := (s.1, again.records)) rfl
      (confined₁.isSupported tree ⟨apart.2, apart.1⟩) takes₂
      (spared_of_quiet (fun _ _ _ => rfl) h₂) h₂
    have sameConfig : j₂.config = j.config := rfl
    have sameTemplate : j₂.template = j.template := rfl
    obtain ⟨rfl, same⟩ := eq_of_replay_again sameConfig sameTemplate h h₂ rfl
    rw [same] at finished₂
    have confined : Artifacts.Confined r₂ s.1 s₂.1 :=
      confined_of_generate (j := j₂) (s := (s.1, again.records)) rfl (fun _ _ _ => rfl) takes₂ h₂
    refine ⟨rfl, ?_, sameOutput_of_confined finished confined apart finished₂⟩
    rw [Recording.load_eq_ok finished₂ fits recordsFit, config]

/-- Of the texts that are asked for, one has no record and the other one has two, of which one is
of a failure; so a replay that asks for it three times finds the records in turn and then none, and
the replay of that replay does the same. -/
theorem replay_of_replay_with_gaps :
    let f : PromptSpec := ⟨.between "a.py" (1, 0) (1, 1), "f", "callee"⟩
    let x : PromptSpec := ⟨.between "a.py" (1, 2) (1, 3), "x", "name"⟩
    let filesOf (specs : List PromptSpec) : List SourceFile := [⟨"a.py", .python, "f(x)\n", specs⟩]
    let into (folder : String) : Job := ⟨Config.standard, "\x7b\x7borig\x7d\x7d", .none,
      some (.ofString folder)⟩
    let m := Model.scripted ⟨"m", .zero, 1, ""⟩
    let s : World × List (Except Failure Answer) := (⟨[], []⟩,
      [.error (.status 500 "busy"), .ok ⟨["\x60\x60\x60\ng\n\x60\x60\x60"], ⟨3, 4, 7⟩⟩])
    let w := ((into "o").generate m (filesOf [f, f]) s).2.1
    let recording : Recording := ⟨Config.standard, (into "o").records m (filesOf [f, f]) s⟩
    let files := filesOf [x, f, f, f]
    let r (name : String) : Route := ⟨0, [], [Text.bytes name]⟩
    let again : Recording := ⟨Config.standard,
      (into "p").records (.replay Config.standard) files (w, recording.records)⟩
    ∃ result s₁ result₂ s₂, Recording.load w (.ofString "o") = .ok recording ∧
      (into "p").generate (.replay Config.standard) files (w, recording.records) =
        (.ok result, s₁) ∧
      (result.summary.nrReplayMissing, result.summary.nrQueryFailed, result.summary.nrMutants) =
        (2, 1, 1) ∧
      Recording.load s₁.1 (.ofString "p") = .ok again ∧
      (into "q").generate (.replay Config.standard) files (s₁.1, again.records) =
        (.ok result₂, s₂) ∧
      result₂ = result ∧ SameOutput s₂.1 (r "p") (r "q") := by
  intro f x filesOf into m s w recording files r again
  -- the run that is recorded
  obtain ⟨result₀, s₀, h₀⟩ :
      ∃ result s', (into "o").generate m (filesOf [f, f]) s = (.ok result, s') :=
    exists_generate_eq (by decide +kernel)
  have world₀ : s₀.1 = w := (congrArg (·.2.1) h₀).symm
  have summary₀ : ((into "o").generate m (filesOf [f, f]) s).1.toOption.map (·.summary) =
      some { RunSummary.start Config.standard with
        nrPrompts := 2, nrCandidates := 1, nrMutants := 1, nrQueryFailed := 1
        usage := ⟨3, 4, 7⟩ } := by
    decide +kernel
  rw [h₀] at summary₀
  have fits₀ : result₀.summary.Fits := by
    rw [show result₀.summary = _ from Option.some.inj summary₀]
    exact RunSummary.fits_of_counts rfl (by decide) (by decide)
  have records : recording.records = [⟨1, "f", f.location, .failed⟩,
      ⟨2, "f", f.location, .completed ⟨["\x60\x60\x60\ng\n\x60\x60\x60"], ⟨3, 4, 7⟩⟩⟩] := by
    decide +kernel
  have recordsFit : ∀ x ∈ recording.records, x.Fits := by
    rw [records]
    simp only [List.forall_mem_cons, List.not_mem_nil, false_implies, implies_true, and_true]
    refine ⟨⟨by decide, ?_, trivial⟩, by decide, ?_, ?_⟩ <;> constructor <;> decide
  have tree : s.1.IsTree := by constructor <;> decide
  have finished₀ := finished_of_generate (r := r "o") rfl (tree.isSupported _)
    (Artifacts.takes_of_names (by decide) tree rfl (by decide))
    (spared_of_quiet (Model.scripted_quiet _) h₀) h₀
  have loaded : Recording.load w (.ofString "o") = .ok recording := by
    rw [← world₀, Recording.load_eq_ok finished₀ fits₀ recordsFit, config_of_generate h₀]
  -- its replay
  obtain ⟨result, s₁, h⟩ : ∃ result s', (into "p").generate (.replay Config.standard) files
      (w, recording.records) = (.ok result, s') := exists_generate_eq (by decide +kernel)
  have world₁ : s₁.1 = ((into "p").generate (.replay Config.standard) files
      (w, recording.records)).2.1 := (congrArg (·.2.1) h).symm
  have summary : ((into "p").generate (.replay Config.standard) files
      (w, recording.records)).1.toOption.map (·.summary) =
        some { RunSummary.start Config.standard with
          nrPrompts := 4, nrCandidates := 1, nrMutants := 1, nrQueryFailed := 1
          nrReplayMissing := 2, usage := ⟨3, 4, 7⟩ } := by
    decide +kernel
  rw [h] at summary
  have summary : result.summary = _ := Option.some.inj summary
  have fits : result.summary.Fits := by
    rw [summary]
    exact RunSummary.fits_of_counts rfl (by decide) (by decide)
  have tree₀ : w.IsTree := by constructor <;> decide +kernel
  have takes₁ : w.Takes (promptsAt (r "p")) (.ofString "p") (r "p") :=
    Artifacts.takes_of_names (by decide +kernel) tree₀ (by decide +kernel) (by decide)
  obtain ⟨again_loaded, repeats⟩ := replay_of_replay loaded (by decide) (by decide) tree₀
    takes₁ h fits
  -- and the replay of that
  obtain ⟨result₂, s₂, h₂⟩ : ∃ result s', (into "q").generate (.replay Config.standard) files
      (s₁.1, again.records) = (.ok result, s') := by
    rw [world₁]
    exact exists_generate_eq (by decide +kernel)
  have tree₁ : s₁.1.IsTree := by
    rw [world₁]
    constructor <;> decide +kernel
  have takes₂ : s₁.1.Takes (promptsAt (r "q")) (.ofString "q") (r "q") := by
    refine Artifacts.takes_of_names ?_ tree₁ ?_ (by decide)
    all_goals
      rw [world₁]
      decide +kernel
  obtain ⟨same, -, output⟩ := repeats .none (.ofString "q") (r "q") result₂ s₂ takes₂
    ⟨by decide, by decide⟩ h₂
  refine ⟨result, s₁, result₂, s₂, loaded, h, ?_, again_loaded, h₂, same, output⟩
  rw [summary]

/-! ### An output folder that is not cleared -/

section Parent

/-- A run over one file that asks for one prompt and goes by way of a folder that is missing. -/
def throughMissing : Job := ⟨Config.standard, "?", .none, some (.ofString "a/../b")⟩

def onePrompt : List SourceFile := [⟨"a.py", .python, "f(x)\n",
  [⟨.between "a.py" (1, 0) (1, 1), "f", "callee"⟩]⟩]

def stale : PromptRecord := ⟨1, "?", .between "a.py" (1, 0) (1, 1), .failed⟩

/-- A recorded run without records in the one folder, and a record of an earlier run in the other
one. -/
def withStale (summary record : Bytes) : World :=
  let d : Address := [Text.bytes "d"]
  let b : Route := ⟨0, [], [Text.bytes "b"]⟩
  ⟨[(d, .folder), (Text.bytes "summary.json" :: d, .file summary), (b.address, .folder),
    (promptsAt b, .folder), (Text.bytes "x.json" :: promptsAt b, .file record)], []⟩

/-- A replay without records asks for nothing that it could save. -/
theorem Visits.eq_of_no_records {specs : List (SourceFile × PromptSpec)} {p p' : Progress}
    {s s' : World × List PromptRecord} {ts : List Turn}
    (way : Visits j (.replay c) specs p s ts p' s') (none_left : s.2 = []) : s' = s := by
  induction way with
  | done | full => rfl
  | unfit _ _ _ ih | filtered _ _ _ _ ih => exact ih none_left
  | @asked _ _ _ _ s _ _ _ _ outcome s₁ w₂ _ _ _ answer saved _ ih =>
      obtain ⟨w, records⟩ := s
      obtain ⟨w₁, records₁⟩ := s₁
      obtain rfl : records = [] := none_left
      obtain ⟨rfl, said⟩ := Model.query_replay answer
      obtain ⟨rfl, rfl⟩ := Prod.mk.inj said
      have idle :
          (Except.ok (), w₁) = ((Except.ok (), w₂) : Except ArtifactFault Unit × World) := by
        simpa [save, recordOf?, Failure.isUnrecorded] using saved
      obtain rfl := (Prod.mk.inj idle).2
      exact ih rfl

/-- What the run comes to is written beside the record of the earlier run. -/
theorem saveResult_throughMissing (summary record : Bytes) (result : RunResult) :
    ∃ w, throughMissing.saveResult result (withStale summary record) = (.ok (), w) ∧
      w.read (Artifacts.summaryPath (.ofString "a/../b")) =
        .ok (Text.bytes result.summary.toJson.page) ∧
      w.list (Artifacts.promptsPath (.ofString "a/../b")) = .ok [Text.bytes "x.json"] ∧
      w.read ((Artifacts.promptsPath (.ofString "a/../b")).join ⟨Text.bytes "x.json"⟩) =
        .ok record := by
  simp only [saveResult, throughMissing, Artifacts.saveMutants, Artifacts.saveSummary,
    Artifacts.writeJson]
  generalize Text.bytes (Json.arr (result.mutants.map Mutant.toJson)).page = first
  generalize Text.bytes result.summary.toJson.page = second
  refine ⟨_, Prod.ext (?_ : _ = Except.ok ()) rfl, ?_, ?_, ?_⟩ <;> rfl

/-- What a replay of a replay relies on: where the path of the first output folder goes up from a
folder that is not there yet, clearing it removes nothing, and the second replay meets a record that
the first one has not met. -/
theorem not_replay_of_replay_of_parent :
    let w := withStale (Text.bytes (RunSummary.start Config.standard).toJson.page)
      (Text.bytes stale.toJson.page)
    let again : Job := { throughMissing with output := some (.ofString "c") }
    ∃ result s result₂ s₂, Recording.load w (.ofString "d") = .ok ⟨Config.standard, []⟩ ∧
      throughMissing.generate (.replay Config.standard) onePrompt (w, []) = (.ok result, s) ∧
      Recording.load s.1 (.ofString "a/../b") = .ok ⟨Config.standard, [stale]⟩ ∧
      again.generate (.replay Config.standard) onePrompt (s.1, [stale]) = (.ok result₂, s₂) ∧
      (result.summary.nrReplayMissing, result.summary.nrQueryFailed) = (1, 0) ∧
      (result₂.summary.nrReplayMissing, result₂.summary.nrQueryFailed) = (0, 1) := by
  intro w again
  have loaded : Recording.load w (.ofString "d") = .ok ⟨Config.standard, []⟩ := by
    have missing : w.list (Artifacts.promptsPath (.ofString "d")) = .error .missing := by rfl
    have read : w.read (Artifacts.summaryPath (.ofString "d")) =
        .ok (Text.bytes (RunSummary.start Config.standard).toJson.page) := by rfl
    exact Recording.load_of_read (RunSummary.fits_of_counts rfl (by decide) (by decide)) read
      (by simp [Artifacts.loadRecords, missing])
  obtain ⟨result, s, h⟩ : ∃ result s, throughMissing.generate (.replay Config.standard) onePrompt
      (w, []) = (.ok result, s) := exists_generate_eq (by decide +kernel)
  have counts : (throughMissing.generate (.replay Config.standard) onePrompt
      (w, [])).1.toOption.map (·.summary) =
        some { RunSummary.start Config.standard with nrPrompts := 1, nrReplayMissing := 1 } := by
    decide +kernel
  rw [h] at counts
  have counts : result.summary = _ := Option.some.inj counts
  have fits : result.summary.Fits := by
    rw [counts]
    exact RunSummary.fits_of_counts rfl (by decide) (by decide)
  -- the folder that is written to is the one that holds the record
  have left : ∃ w', s.1 = w' ∧ throughMissing.saveResult result w = (.ok (), w') := by
    obtain ⟨w₁, p, w₂, s₂, cleared, way, -, saved, -⟩ := generate_eq_ok h
    have cleared : w₁ = w := by
      have same : throughMissing.clear w = (.ok (), w) := by rfl
      exact (Prod.mk.inj (cleared.symm.trans same)).2
    obtain ⟨rfl, -⟩ := Prod.mk.inj (way.eq_of_no_records rfl)
    exact ⟨_, rfl, cleared ▸ saved⟩
  obtain ⟨w', here, saved⟩ := left
  obtain ⟨w'', saved', readSummary, listed, readRecord⟩ :=
    saveResult_throughMissing (Text.bytes (RunSummary.start Config.standard).toJson.page)
      (Text.bytes stale.toJson.page) result
  obtain rfl : w' = w'' := (Prod.mk.inj (saved.symm.trans saved')).2
  have staleFits : stale.Fits := ⟨by decide, by decide, trivial⟩
  have config : result.summary.config = Config.standard := config_of_generate h
  have reload : Recording.load s.1 (.ofString "a/../b") = .ok ⟨Config.standard, [stale]⟩ := by
    rw [here, ← config]
    exact Recording.load_of_read fits readSummary (loadRecords_of_single listed (by decide)
      (Artifacts.readJson_of_read readRecord (PromptRecord.written staleFits)))
  have world : s.1 = (throughMissing.generate (.replay Config.standard) onePrompt (w, [])).2.1 :=
    (congrArg (·.2.1) h).symm
  obtain ⟨result₂, s₂, h₂⟩ : ∃ result₂ s₂, again.generate (.replay Config.standard) onePrompt
      (s.1, [stale]) = (.ok result₂, s₂) := by
    rw [world]
    exact exists_generate_eq (by decide +kernel)
  have counts₂ : (again.generate (.replay Config.standard) onePrompt
      (s.1, [stale])).1.toOption.map
        (fun result => (result.summary.nrReplayMissing, result.summary.nrQueryFailed)) =
          some (0, 1) := by
    rw [world]
    decide +kernel
  rw [h₂] at counts₂
  refine ⟨result, s, result₂, s₂, loaded, h, reload, h₂, ?_, Option.some.inj counts₂⟩
  rw [counts]
  rfl

end Parent

end Job

end Mutagenesis
