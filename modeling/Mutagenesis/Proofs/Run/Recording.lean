import Mutagenesis.Model.Replay
import Mutagenesis.Proofs.Run.Loading
import Mutagenesis.Proofs.Run.Progress

/-!
# Recorded runs

A run whose queries spare its output folder leaves there the records of its turns, its mutants and
its summary, whatever the folder held before, and all of it reads back. Each step of the run keeps
`Recorded`: clearing the folder brings it about, and a turn adds its record at the end.
-/
namespace Mutagenesis

open Files (Address World Route)
open Artifacts (Recorded Finished promptsAt)

/-- Whether a query spares the output folder: the way there lasts, and what stands in the folder of
records stays as it is. -/
structure Artifacts.Spared (folder : Path) (r : Route) (w w' : World) : Prop where
  takes : w.Takes (promptsAt r) folder r → w'.Takes (promptsAt r) folder r
  entries : ∀ b, w'.get? (b ++ promptsAt r) = w.get? (b ++ promptsAt r)
  names : w'.names (promptsAt r) = w.names (promptsAt r)

theorem Artifacts.Recorded.spared {w w' : World} {folder : Path} {r : Route} {made : Bool}
    {records : List PromptRecord} (h : Recorded w folder r made records)
    (spared : Spared folder r w w') : Recorded w' folder r made records :=
  ⟨spared.takes h.takes, fun b => (spared.entries b).trans (h.entries b),
    spared.names.trans h.names, h.usable, h.increasing⟩

/-- What a turn leaves in the output folder. -/
def Turn.record? (t : Turn) : Option PromptRecord := Job.recordOf? t.prompt t.outcome

namespace Job

variable {σ : Type} {j : Job} {m : Model σ} {folder : Path} {r : Route}

theorem id_of_recordOf? {prompt : Prompt} {outcome : Except Failure Answer} {x : PromptRecord}
    (h : recordOf? prompt outcome = some x) : x.id = prompt.id := by
  unfold recordOf? at h
  split at h
  next =>
    obtain rfl := Option.some.inj h
    rfl
  next =>
    split at h
    next => simp at h
    next =>
      obtain rfl := Option.some.inj h
      rfl

/-- Saving a prompt adds its record to those of the output folder. -/
theorem recorded_of_save {prompt : Prompt} {outcome : Except Failure Answer} {w w' : World}
    {records : List PromptRecord} (output : j.output = some folder)
    (h : Recorded w folder r (!records.isEmpty) records)
    (old : ∀ x ∈ records, x.id < prompt.id) (saved : j.save prompt outcome w = (.ok (), w')) :
    Recorded w' folder r (!(records ++ (recordOf? prompt outcome).toList).isEmpty)
      (records ++ (recordOf? prompt outcome).toList) := by
  unfold save at saved
  cases hrecord : recordOf? prompt outcome with
  | none =>
      simp only [output, hrecord, Prod.mk.injEq, true_and] at saved
      subst saved
      simpa using h
  | some x =>
      simp only [output, hrecord] at saved
      have fresh : ∀ y ∈ records, y.id < x.id := by
        rw [id_of_recordOf? hrecord]
        exact old
      have some_left : (records ++ [x]).isEmpty = false := by simp
      simpa [some_left] using Artifacts.recorded_of_saveRecord h fresh saved

/-- On its way a run adds the record of each turn to those of the output folder. -/
theorem Visits.recorded {records : List PromptRecord} (output : j.output = some folder)
    {specs : List (SourceFile × PromptSpec)} {p p' : Progress} {s s' : World × σ} {ts : List Turn}
    (way : Visits j m specs p s ts p' s')
    (spared : ∀ t ∈ ts, Artifacts.Spared folder r t.before t.after)
    (h : Recorded s.1 folder r (!records.isEmpty) records)
    (old : ∀ x ∈ records, x.id < p.prompts.nextId) :
    Recorded s'.1 folder r (!(records ++ ts.filterMap Turn.record?).isEmpty)
      (records ++ ts.filterMap Turn.record?) := by
  induction way generalizing records with
  | done => simpa using h
  | full => simpa using h
  | unfit _ _ _ ih => exact ih spared h old
  | filtered _ _ _ _ ih => exact ih spared h fun x hx => Nat.lt_succ_of_lt (old x hx)
  | @asked file spec more p s ts p' s' code outcome s₁ w₂ _ _ _ _ saved _ ih =>
      rw [List.forall_mem_cons] at spared
      have after := recorded_of_save output (h.spared spared.1) old saved
      have numbered : ∀ x ∈ records ++
          (recordOf? ⟨p.prompts.nextId, render j.template code spec, spec⟩ outcome).toList,
          x.id < p.prompts.nextId + 1 := by
        intro x hx
        obtain hx | hx := List.mem_append.1 hx
        · exact Nat.lt_succ_of_lt (old x hx)
        · rw [id_of_recordOf? (Option.mem_toList.1 hx)]
          exact Nat.lt_succ_self _
      have := ih spared.2 after (by rwa [nextId_after])
      rw [List.filterMap_cons]
      cases hrecord : recordOf? ⟨p.prompts.nextId, render j.template code spec, spec⟩ outcome with
      | none => simpa [Turn.record?, hrecord] using this
      | some x => simpa [Turn.record?, hrecord] using this

/-- The mutants are written before the summary. -/
theorem saveResult_eq_ok {j : Job} {out : Path} {result : RunResult} {w w' : World}
    (output : j.output = some out) (h : j.saveResult result w = (.ok (), w')) :
    ∃ w₁, Artifacts.saveMutants w out result.mutants = (.ok (), w₁) ∧
      Artifacts.saveSummary w₁ out result.summary = (.ok (), w') := by
  simp only [saveResult, output] at h
  split at h
  next => simp at h
  next w₁ mutants => exact ⟨w₁, mutants, h⟩

/-- The records of a run. -/
def records (j : Job) (m : Model σ) (files : List SourceFile) (s : World × σ) :
    List PromptRecord :=
  (j.turns m files s).filterMap Turn.record?

/-- A run that comes to its end leaves its records, its mutants and its summary. -/
theorem finished_of_generate {files : List SourceFile} {s s' : World × σ} {result : RunResult}
    (output : j.output = some folder) (supported : s.1.IsSupported (promptsAt r))
    (takes : s.1.Takes (promptsAt r) folder r)
    (spared : ∀ q ∈ j.log m files s, Artifacts.Spared folder r q.before q.after)
    (h : j.generate m files s = (.ok result, s')) :
    Finished s'.1 folder r (!(j.records m files s).isEmpty) (j.records m files s) result.mutants
      result.summary := by
  obtain ⟨w₁, p, w₂, s₂, cleared, way, -, saved, -⟩ := generate_eq_ok h
  have cleared : Artifacts.clear s.1 folder = (.ok (), w₁) := by simpa [clear, output] using cleared
  have start : Recorded w₁ folder r (!([] : List PromptRecord).isEmpty) [] :=
    Artifacts.recorded_of_clear supported takes cleared
  have spared : ∀ t ∈ j.turns m files s, Artifacts.Spared folder r t.before t.after := by
    rw [log_eq_turns] at spared
    exact fun t ht => spared _ (List.mem_map_of_mem ht)
  have done := way.recorded output spared start (by simp)
  rw [List.nil_append] at done
  obtain ⟨w₃, mutants, summary⟩ := saveResult_eq_ok output saved
  obtain ⟨kept, usable, there⟩ := Artifacts.recorded_of_saveMutants done mutants
  exact Artifacts.finished_of_saveSummary kept usable there summary

theorem Visits.after_eq_before (quiet : ∀ text options s, (m.query text options s).2.1 = s.1)
    {specs : List (SourceFile × PromptSpec)} {p p' : Progress} {s s' : World × σ} {ts : List Turn}
    (way : Visits j m specs p s ts p' s') : ∀ t ∈ ts, t.after = t.before := by
  induction way with
  | done | full => simp
  | unfit _ _ _ ih | filtered _ _ _ _ ih => exact ih
  | asked _ _ _ answer _ _ ih =>
      have same := (congrArg (·.2.1) answer).symm.trans (quiet _ _ _)
      exact List.forall_mem_cons.2 ⟨same, ih⟩

/-- A model that changes no files leaves each file as it is. -/
theorem after_eq_before_of_quiet {files : List SourceFile} {s s' : World × σ} {result : RunResult}
    (quiet : ∀ text options s, (m.query text options s).2.1 = s.1)
    (h : j.generate m files s = (.ok result, s')) :
    ∀ q ∈ j.log m files s, q.after = q.before := by
  obtain ⟨_, _, _, _, -, way, -, -, -⟩ := generate_eq_ok h
  rw [log_eq_turns, List.forall_mem_map]
  exact way.after_eq_before quiet

/-- And it spares the output folder, whatever that is. -/
theorem spared_of_quiet {files : List SourceFile} {s s' : World × σ} {result : RunResult}
    (quiet : ∀ text options s, (m.query text options s).2.1 = s.1)
    (h : j.generate m files s = (.ok result, s')) :
    ∀ q ∈ j.log m files s, Artifacts.Spared folder r q.before q.after := by
  intro q hq
  rw [after_eq_before_of_quiet quiet h q hq]
  exact ⟨id, fun _ => rfl, rfl⟩

/-- The configuration of a run is that of its summary. -/
theorem Visits.config_eq {specs : List (SourceFile × PromptSpec)} {p p' : Progress}
    {s s' : World × σ} {ts : List Turn} (way : Visits j m specs p s ts p' s') :
    p'.summary.config = p.summary.config := by
  induction way with
  | done | full => rfl
  | unfit _ _ _ ih | filtered _ _ _ _ ih => exact ih
  | @asked file spec more p s ts p' s' code outcome _ _ _ _ _ _ _ _ ih =>
      rw [ih]
      cases outcome with
      | error failure => rw [summary_after_error]
      | ok answer => rw [summary_after_ok]

theorem config_of_generate {files : List SourceFile} {s s' : World × σ} {result : RunResult}
    (h : j.generate m files s = (.ok result, s')) : result.summary.config = j.config := by
  obtain ⟨w₁, p, w₂, s₂, -, way, rfl, -, -⟩ := generate_eq_ok h
  exact way.config_eq

end Job

/-- A finished run reads back. -/
theorem Recording.load_eq_ok {w : World} {folder : Path} {r : Route} {records : List PromptRecord}
    {ms : List Mutant} {s : RunSummary}
    (h : Finished w folder r (!records.isEmpty) records ms s) (fits : s.Fits)
    (recordsFit : ∀ x ∈ records, x.Fits) : load w folder = .ok ⟨s.config, records⟩ := by
  simp [load, h.loadSummary_eq_ok fits, h.loadRecords_eq_ok rfl recordsFit, bind, Except.bind, pure,
    Except.pure]

/-- A run reads back whose summary was written and whose records can be read. -/
theorem Recording.load_of_read {w : World} {folder : Path} {s : RunSummary}
    {records : List PromptRecord} (fits : s.Fits)
    (read : w.read (Artifacts.summaryPath folder) = .ok (Text.bytes s.toJson.page))
    (loaded : Artifacts.loadRecords w folder = .ok records) :
    load w folder = .ok ⟨s.config, records⟩ := by
  have summary : Artifacts.loadSummary w folder = .ok s :=
    Artifacts.readJson_of_read read (RunSummary.written fits)
  simp [load, summary, loaded, bind, Except.bind, pure, Except.pure]

/-- A recorded run consists of its summary and its records. -/
theorem Artifacts.exists_of_load {w : World} {folder : Path} {recording : Recording}
    (h : Recording.load w folder = .ok recording) :
    ∃ s content, loadSummary w folder = .ok s ∧ w.read (summaryPath folder) = .ok content ∧
      loadRecords w folder = .ok recording.records ∧ recording.config = s.config := by
  simp only [Recording.load, bind, Except.bind] at h
  cases summary : loadSummary w folder with
  | error fault => simp [summary] at h
  | ok s =>
      cases records : loadRecords w folder with
      | error fault => simp [summary, records] at h
      | ok xs =>
          obtain ⟨content, read⟩ := exists_read_of_readJson summary
          simp only [summary, records, pure, Except.pure, Except.ok.injEq] at h
          exact ⟨s, content, rfl, read, h ▸ rfl, h ▸ rfl⟩

/-- Whether a name among those of the records belongs to something that cannot be read as one. -/
def Artifacts.isBroken (w : World) (folder : Path) (name : Bytes) : Bool :=
  isRecordName name && decide (name ∈ (w.list (promptsPath folder)).toOption.getD []) &&
    (readJson w ((promptsPath folder).join ⟨name⟩) PromptRecord.decoder).toOption.isNone

/-- One record that cannot be read is enough for none to be read. -/
theorem Artifacts.loadRecords_ne_ok {w : World} {folder : Path} {name : Bytes}
    (h : isBroken w folder name = true) (records : List PromptRecord) :
    loadRecords w folder ≠ .ok records := by
  intro loaded
  simp only [isBroken, Bool.and_eq_true, decide_eq_true_eq, Option.isNone_iff_eq_none] at h
  obtain ⟨⟨isRecord, hname⟩, unreadable⟩ := h
  cases listed : w.list (promptsPath folder) with
  | error fault => simp [listed, Except.toOption] at hname
  | ok names =>
      simp only [listed, Except.toOption, Option.getD_some] at hname
      have read := mapM_ne_ok
        (f := fun name => readJson w ((promptsPath folder).join ⟨name⟩) PromptRecord.decoder)
        (List.mem_filter.2 ⟨hname, isRecord⟩) unreadable
      simp only [loadRecords, listed, bind, Except.bind] at loaded
      split at loaded
      next => simp at loaded
      next rs hrs => exact read rs hrs

/-- And then the run does not read back. -/
theorem Recording.load_ne_ok {w : World} {folder : Path} {name : Bytes}
    (h : Artifacts.isBroken w folder name = true) (recording : Recording) :
    load w folder ≠ .ok recording := by
  intro loaded
  unfold load at loaded
  cases summary : Artifacts.loadSummary w folder with
  | error fault => simp [summary, bind, Except.bind] at loaded
  | ok s =>
      cases records : Artifacts.loadRecords w folder with
      | error fault => simp [summary, records, bind, Except.bind] at loaded
      | ok rs => exact Artifacts.loadRecords_ne_ok h rs records

end Mutagenesis
