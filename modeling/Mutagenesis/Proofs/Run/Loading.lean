import Mathlib.Data.List.Nodup
import Mutagenesis.Proofs.Results
import Mutagenesis.Proofs.Run.Artifacts

/-!
# What a finished run leaves behind

Writing what a run comes to leaves its records as they are and puts the mutants and the summary
beside them. The summary and the records of such a folder read back as they were written.
-/
namespace Mutagenesis.Artifacts

open Files (Address Entry World Route IsUsable isName)
open Json (Written)

variable {w w' : World} {folder : Path} {r : Route} {made : Bool} {records : List PromptRecord}
  {ms : List Mutant} {s : RunSummary}

/-- The file of the mutants. -/
def mutantsFile (ms : List Mutant) : Entry :=
  .file (Text.bytes (Json.arr (ms.map Mutant.toJson)).page)

/-- The file of the summary. -/
def summaryFile (s : RunSummary) : Entry := .file (Text.bytes s.toJson.page)

/-- Whether the output folder holds what a run leaves behind that has come to its end. -/
structure Finished (w : World) (folder : Path) (r : Route) (made : Bool)
    (records : List PromptRecord) (ms : List Mutant) (s : RunSummary) : Prop
    extends Recorded w folder r made records where
  passes : w.Passes r.base r.names
  mutants : w.get? (Text.bytes mutantsName :: r.address) = some (mutantsFile ms)
  summary : w.get? (Text.bytes summaryName :: r.address) = some (summaryFile s)
  usableMutants : IsUsable (mutantsPath folder)
  usableSummary : IsUsable (summaryPath folder)

theorem recorded_of_saveMutants (h : Recorded w folder r made records)
    (saved : saveMutants w folder ms = (.ok (), w')) :
    Recorded w' folder r made records ∧ IsUsable (mutantsPath folder) ∧
      w'.get? (Text.bytes mutantsName :: r.address) = some (mutantsFile ms) := by
  obtain ⟨w₁, h₁, usable, -, -, noFolder, rfl⟩ :=
    writeJson_eq_ok (p := folder) (r := r) (I := fun w => Recorded w folder r made records)
      isName_mutantsName Recorded.takes
      (fun h hfront free => h.put_outside (not_promptsAt_suffix_of_isPrefix hfront) (by simp [free])
        (by simp [free]) (by simp)) h saved
  refine ⟨h₁.put_outside (not_promptsAt_suffix_of_ne (by decide)) noFolder
    (h₁.takes.below [_]) (by simp), usable, ?_⟩
  rw [World.get?_put _ _ _ (List.cons_ne_nil _ _), if_pos rfl]
  rfl

/-- The summary is written beside the mutants. -/
theorem finished_of_saveSummary (h : Recorded w folder r made records)
    (usable : IsUsable (mutantsPath folder))
    (mutants : w.get? (Text.bytes mutantsName :: r.address) = some (mutantsFile ms))
    (saved : saveSummary w folder s = (.ok (), w')) :
    Finished w' folder r made records ms s := by
  obtain ⟨w₁, ⟨h₁, mutants₁⟩, usableSummary, passes, -, noFolder, rfl⟩ :=
    writeJson_eq_ok (p := folder) (r := r)
      (I := fun w => Recorded w folder r made records ∧
        w.get? (Text.bytes mutantsName :: r.address) = some (mutantsFile ms))
      isName_summaryName (fun h => h.1.takes)
      (fun h hfront free => ⟨h.1.put_outside (not_promptsAt_suffix_of_isPrefix hfront)
        (by simp [free]) (by simp [free]) (by simp), World.get?_put_of_free free h.2⟩)
      ⟨h, mutants⟩ saved
  have other : Text.bytes mutantsName :: r.address ≠ Text.bytes summaryName :: r.address := by
    intro same
    exact absurd (List.cons.inj same).1 (by decide)
  refine ⟨h₁.put_outside (not_promptsAt_suffix_of_ne (by decide)) noFolder
    (h₁.takes.below [_]) (by simp), ?_, ?_, ?_, usable, usableSummary⟩
  · refine passes.mono fun b found => ?_
    rw [World.get?_put _ _ _ (List.cons_ne_nil _ _), if_neg, found]
    rintro rfl
    exact noFolder found
  · rw [World.get?_put _ _ _ (List.cons_ne_nil _ _), if_neg other, mutants₁]
  · rw [World.get?_put _ _ _ (List.cons_ne_nil _ _), if_pos rfl]
    rfl

/-! ## Reading back -/

/-- A value is read when the file holds a text that it can be read from. -/
theorem readJson_eq_ok_iff {α : Type} {p : Path} {d : Json.Decoder α} {x : α} :
    readJson w p d = .ok x ↔ ∃ content text, w.read p = .ok content ∧
      Text.ofBytes? content = some text ∧ Json.decode d text = .ok x := by
  cases read : w.read p with
  | error fault => simp [readJson, World.readText, read, bind, Except.bind]
  | ok content =>
      cases held : Text.ofBytes? content with
      | none => simp [readJson, World.readText, read, held, bind, Except.bind, throw, throwThe,
          MonadExceptOf.throw]
      | some text =>
          cases decoded : Json.decode d text <;>
            simp [readJson, World.readText, read, held, decoded, bind, Except.bind, pure,
              Except.pure, Except.mapError]

theorem exists_read_of_readJson {α : Type} {p : Path} {d : Json.Decoder α} {x : α}
    (h : readJson w p d = .ok x) : ∃ content, w.read p = .ok content := by
  obtain ⟨content, -, read, -⟩ := readJson_eq_ok_iff.1 h
  exact ⟨content, read⟩

/-- A value reads back from a file that holds what is written for it. -/
theorem readJson_of_read {α : Type} {p : Path} {v : Json} {x : α} {d : Json.Decoder α}
    (read : w.read p = .ok (Text.bytes v.page)) (written : Written d v x) :
    readJson w p d = .ok x := by
  exact readJson_eq_ok_iff.2 ⟨_, v.page, read, by simp, written.decode_page⟩

/-- A value reads back from the file that was written for it, where its path leads. -/
theorem readJson_eq_ok {α : Type} {avoided : Address} {p : Path} {name : Bytes} {v : Json} {x : α}
    {d : Json.Decoder α} (takes : w.Takes avoided p r) (hname : isName name = true)
    (usable : IsUsable (p.join ⟨name⟩)) (passes : w.Passes r.base r.names)
    (short : name.length ≤ Files.nameLimit)
    (found : w.get? (name :: r.address) = some (.file (Text.bytes v.page)))
    (written : Written d v x) : readJson w (p.join ⟨name⟩) d = .ok x := by
  have located : w.locate true (p.join ⟨name⟩) = .ok (name :: r.address) :=
    (takes.locate_join_eq_ok hname).2 ⟨usable, passes, short, rfl⟩
  refine readJson_of_read ?_ written
  simp [World.read, located, found, bind, Except.bind, pure, Except.pure]

/-! ## The order of records -/

/-- Records are sorted by their numbers. -/
theorem pairwise_mergeSort_id (records : List PromptRecord) :
    (records.mergeSort fun x y => decide (x.id ≤ y.id)).Pairwise (·.id ≤ ·.id) := by
  have sorted : (records.mergeSort fun x y => decide (x.id ≤ y.id)).Pairwise
      fun x y => decide (x.id ≤ y.id) = true :=
    List.pairwise_mergeSort (fun x y z hxy hyz => by
      simpa using Nat.le_trans (of_decide_eq_true hxy) (of_decide_eq_true hyz))
      (fun x y => by simpa using Nat.le_total x.id y.id) records
  exact sorted.imp of_decide_eq_true

/-- Records of different numbers come in increasing order. -/
theorem increasing_mergeSort (distinct : (records.map (·.id)).Nodup) :
    (records.mergeSort fun x y => decide (x.id ≤ y.id)).Pairwise (·.id < ·.id) := by
  have apart : ((records.mergeSort fun x y => decide (x.id ≤ y.id)).map (·.id)).Nodup :=
    ((List.mergeSort_perm records _).map _).nodup_iff.2 distinct
  exact ((pairwise_mergeSort_id records).and (List.pairwise_map.1 apart)).imp
    fun h => Nat.lt_of_le_of_ne h.1 h.2

/-- The records that are read are those of the files whose names are of records, and there are none
where there is no folder for them. -/
theorem loadRecords_cases (h : loadRecords w folder = .ok records) :
    (w.list (promptsPath folder) = .error .missing ∧ records = []) ∨
      ∃ names read, w.list (promptsPath folder) = .ok names ∧
        (names.filter isRecordName).mapM (fun name =>
          readJson w ((promptsPath folder).join ⟨name⟩) PromptRecord.decoder) = .ok read ∧
        records = read.mergeSort fun x y => decide (x.id ≤ y.id) := by
  unfold loadRecords at h
  cases listed : w.list (promptsPath folder) with
  | error fault => cases fault <;> simp_all
  | ok names =>
      cases read : (names.filter isRecordName).mapM (fun name =>
          readJson w ((promptsPath folder).join ⟨name⟩) PromptRecord.decoder) with
      | error fault => simp [listed, read, bind, Except.bind] at h
      | ok xs =>
          simp only [listed, read, bind, Except.bind, pure, Except.pure, Except.ok.injEq] at h
          exact .inr ⟨names, xs, rfl, read, h.symm⟩

/-- The records are read when each file among them can be. -/
theorem loadRecords_of_list {names : List Bytes} {read : List PromptRecord}
    (listed : w.list (promptsPath folder) = .ok names)
    (each : List.Forall₂ (fun name x =>
      readJson w ((promptsPath folder).join ⟨name⟩) PromptRecord.decoder = .ok x)
      (names.filter isRecordName) read) :
    loadRecords w folder = .ok (read.mergeSort fun x y => decide (x.id ≤ y.id)) := by
  simp only [loadRecords, listed, mapM_eq_ok.2 each, bind, Except.bind, pure, Except.pure]

/-- A record is read exactly when some file of the folder whose name is of a record holds it. -/
theorem mem_of_loadRecords (h : loadRecords w folder = .ok records) (x : PromptRecord) :
    x ∈ records ↔ ∃ names, w.list (promptsPath folder) = .ok names ∧
      ∃ name ∈ names, isRecordName name = true ∧
        readJson w ((promptsPath folder).join ⟨name⟩) PromptRecord.decoder = .ok x := by
  obtain ⟨missing, rfl⟩ | ⟨names, read, listed, each, rfl⟩ := loadRecords_cases h
  · simp [missing]
  · have each := mapM_eq_ok.1 each
    rw [List.mem_mergeSort]
    constructor
    · intro hx
      obtain ⟨name, hname, made⟩ := exists_of_forall₂ each hx
      exact ⟨names, listed, name, (List.mem_filter.1 hname).1, (List.mem_filter.1 hname).2, made⟩
    · rintro ⟨names', listed', name, hname, isRecord, made⟩
      obtain rfl := Except.ok.inj (listed.symm.trans listed')
      obtain ⟨y, hy, made'⟩ := exists_of_forall₂ each.flip (List.mem_filter.2 ⟨hname, isRecord⟩)
      exact Except.ok.inj (made.symm.trans made') ▸ hy

/-- Records of different numbers are read in increasing order. -/
theorem increasing_of_loadRecords (h : loadRecords w folder = .ok records)
    (distinct : (records.map (·.id)).Nodup) : records.Pairwise (·.id < ·.id) := by
  obtain ⟨-, rfl⟩ | ⟨names, read, -, -, rfl⟩ := loadRecords_cases h
  · exact .nil
  · exact increasing_mergeSort (((List.mergeSort_perm read _).map _).nodup_iff.1 distinct)

namespace Finished

/-- The path of the folder of records leads to its address. -/
theorem locate_promptsPath (h : Finished w folder r made records ms s) :
    w.locate true (promptsPath folder) = .ok (promptsAt r) := by
  have usable : IsUsable (promptsPath folder) :=
    h.usableSummary.rename isName_summaryName isName_promptsName (by decide) (by decide)
  exact (h.takes.locate_join_eq_ok isName_promptsName).2 ⟨usable, h.passes, by decide, rfl⟩

theorem read_mutantsPath (h : Finished w folder r made records ms s) :
    w.read (mutantsPath folder) =
      .ok (Text.bytes (Json.arr (ms.map Mutant.toJson)).page) := by
  have located : w.locate true (mutantsPath folder) = .ok (Text.bytes mutantsName :: r.address) :=
    (h.takes.locate_join_eq_ok isName_mutantsName).2 ⟨h.usableMutants, h.passes, by decide, rfl⟩
  simp [World.read, located, h.mutants, mutantsFile, bind, Except.bind, pure, Except.pure]

theorem loadSummary_eq_ok (h : Finished w folder r made records ms s) (fits : s.Fits) :
    loadSummary w folder = .ok s :=
  readJson_eq_ok h.takes isName_summaryName h.usableSummary h.passes (by decide) h.summary
    (RunSummary.written fits)

theorem eq_of_id_eq {x y : PromptRecord} (increasing : records.Pairwise (·.id < ·.id))
    (hx : x ∈ records) (hy : y ∈ records) (same : x.id = y.id) : x = y := by
  have nodup : (records.map (·.id)).Nodup := List.pairwise_map.2 (increasing.imp Nat.ne_of_lt)
  exact List.inj_on_of_nodup_map nodup hx hy same

/-- The records in the opposite order are sorted by their numbers. -/
theorem mergeSort_reverse (increasing : records.Pairwise (·.id < ·.id)) :
    (records.reverse.mergeSort fun x y => decide (x.id ≤ y.id)) = records := by
  refine List.Perm.eq_of_pairwise ?_ (pairwise_mergeSort_id records.reverse)
    (increasing.imp Nat.le_of_lt) ((List.mergeSort_perm _ _).trans (List.reverse_perm records))
  intro x y hx hy hxy hyx
  exact eq_of_id_eq increasing (by simpa using hx) hy (Nat.le_antisymm hxy hyx)

/-- The file of a record is found under its name. -/
theorem recordsAt_of_mem {x : PromptRecord} (increasing : records.Pairwise (·.id < ·.id))
    (hx : x ∈ records) :
    recordsAt made records [recordName x.id] = some (.file (Text.bytes x.toJson.page)) := by
  cases found : records.find? (fun y => decide (recordName y.id = recordName x.id)) with
  | none =>
      rw [List.find?_eq_none] at found
      exact absurd (by simp) (found x hx)
  | some y =>
      have same : y.id = x.id := recordName_injective (by simpa using List.find?_some found)
      obtain rfl := eq_of_id_eq increasing (List.mem_of_find?_eq_some found) hx same
      simp [recordsAt, found]

/-- The records read back in the order of their numbers. -/
theorem loadRecords_eq_ok (h : Finished w folder r made records ms s)
    (hmade : made = !records.isEmpty) (fits : ∀ x ∈ records, x.Fits) :
    loadRecords w folder = .ok records := by
  have located := h.locate_promptsPath
  have found := h.entries []
  cases hrecords : records.isEmpty with
  | true =>
      obtain rfl := List.isEmpty_iff.1 hrecords
      have missing : w.list (promptsPath folder) = .error .missing := by
        have free : w.get? (promptsAt r) = none := by simpa [hmade, recordsAt] using found
        simp [World.list, located, free, bind, Except.bind, throw, throwThe, MonadExceptOf.throw]
      simp [loadRecords, missing]
  | false =>
      obtain rfl : made = true := by simp [hmade, hrecords]
      have there : w.get? (promptsAt r) = some .folder := found
      have listed : w.list (promptsPath folder) =
          .ok (records.reverse.map (recordName ·.id)) := by
        simp [World.list, located, there, h.names, bind, Except.bind, pure, Except.pure]
      have all : (records.reverse.map (recordName ·.id)).filter isRecordName =
          records.reverse.map (recordName ·.id) :=
        List.filter_eq_self.2 fun name hname => by
          obtain ⟨x, -, rfl⟩ := List.mem_map.1 hname
          exact isRecordName_recordName x.id
      have passes : w.Passes (r.into (Text.bytes promptsName)).base
          (r.into (Text.bytes promptsName)).names :=
        (World.passes_append r.base r.names _).2 ⟨h.passes, by decide, there⟩
      have each : List.Forall₂ (fun name x =>
          readJson w ((promptsPath folder).join ⟨name⟩) PromptRecord.decoder = .ok x)
          ((records.reverse.map (recordName ·.id)).filter isRecordName) records.reverse := by
        rw [all]
        refine List.forall₂_map_left_iff.2 (List.forall₂_same.2 fun x hx => ?_)
        have hx := List.mem_reverse.1 hx
        refine readJson_eq_ok (h.takes.join isName_promptsName) (isName_recordName x.id)
          (h.usable x hx).1 passes (h.usable x hx).2 ?_ (PromptRecord.written (fits x hx))
        rw [Route.address_into]
        exact (h.entries _).trans (recordsAt_of_mem h.increasing hx)
      rw [loadRecords_of_list listed each, mergeSort_reverse h.increasing]

end Finished

end Mutagenesis.Artifacts
