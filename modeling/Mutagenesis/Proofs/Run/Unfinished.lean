import Mutagenesis.Proofs.Files.Ends
import Mutagenesis.Proofs.Files.Replacing
import Mutagenesis.Proofs.Run.Confined

/-!
# The output folder before the end of a run

As long as a run has not written its summary, its output folder holds a file for each of its records
and no summary. `Ongoing` says this of the files by which a run is read, whatever else a model may
keep in the folder. Clearing the folder brings it about, each query and each record keep it, and a
write that fails leaves no more than an empty file: the records can be read, and the run cannot.
-/
namespace Mutagenesis

open Files (Address Entry World Route IsUsable isName)
open Artifacts (promptsAt recordName)

/-! ## Writes that fail -/

namespace Files.World

variable {w w' : World} {avoided a b : Address} {content : Bytes}

/-- Whether a write to an address that failed can have made the second world of the first one. No
file has content that it did not have; the one at the address may have been emptied, or made
without content, and folders may have been made where nothing was. -/
structure FailsAt (a : Address) (w w' : World) : Prop where
  home : w'.home = w.home
  spares : SparesAllBut [a] w w'
  place : SparesAllBut [] w w' ∨
    (∀ e, w.get? a = some e → ∃ content, e = .file content) ∧ w'.get? a = some (.file [])

namespace FailsAt

/-- What becomes of any address. -/
theorem entry (h : FailsAt a w w') (b : Address) :
    w'.get? b = w.get? b ∨ (w.get? b = none ∧ w'.get? b = some .folder) ∨
      b = a ∧ (∀ e, w.get? b = some e → ∃ content, e = .file content) ∧
        w'.get? b = some (.file []) := by
  by_cases same : b = a
  · subst same
    obtain spares | emptied := h.place
    · exact (spares b List.not_mem_nil).imp_right .inl
    · exact .inr (.inr ⟨rfl, emptied⟩)
  · exact (h.spares b (by simpa using same)).imp_right .inl

theorem folder_after (h : FailsAt a w w') (found : w.get? b = some .folder) :
    w'.get? b = some .folder := by
  obtain same | ⟨free, -⟩ | ⟨-, file, -⟩ := h.entry b
  · rw [same, found]
  · simp [free] at found
  · simpa using file _ found

theorem keeps (h : FailsAt a w w') : Keeps avoided w w' := by
  refine ⟨h.home, fun b _ => h.folder_after, fun b target _ found => ?_, fun b target found => ?_⟩
  · obtain same | ⟨free, -⟩ | ⟨-, file, -⟩ := h.entry b
    · rw [same, found]
    · simp [free] at found
    · simpa using file _ found
  · obtain same | ⟨-, made⟩ | ⟨-, -, emptied⟩ := h.entry b
    · rw [← same, found]
    · simp [made] at found
    · simp [emptied] at found

/-- A file with content was there before. -/
theorem file_before (h : FailsAt a w w') (found : w'.get? b = some (.file content)) :
    w.get? b = some (.file content) ∨ content = [] := by
  obtain same | ⟨-, made⟩ | ⟨-, -, emptied⟩ := h.entry b
  · exact .inl (same ▸ found)
  · simp [made] at found
  · rw [emptied] at found
    exact .inr (Entry.file.inj (Option.some.inj found)).symm

theorem file_after (h : FailsAt a w w') (other : b ≠ a)
    (found : w.get? b = some (.file content)) : w'.get? b = some (.file content) := by
  obtain same | ⟨free, -⟩ := h.spares b (by simpa using other)
  · rw [same, found]
  · simp [free] at found

end FailsAt

/-- A write that came no further than to empty its file, or to make it. -/
theorem failsAt_put_nil (nonempty : a ≠ [])
    (file : ∀ e, w.get? a = some e → ∃ content, e = .file content) :
    FailsAt a w (w.put a (.file [])) := by
  refine ⟨rfl, fun b other => .inl ?_, .inr ⟨file, ?_⟩⟩
  · rw [get?_put _ _ _ nonempty, if_neg (by simpa using other)]
  · rw [get?_put _ _ _ nonempty, if_pos rfl]

end Files.World

namespace Artifacts

variable {w w' : World} {folder : Path} {r : Route} {records : List PromptRecord} {x : PromptRecord}
  {a : Address} {name : Bytes} {v : Json}

/-- When a value cannot be written, no file has changed. -/
theorem failsAt_of_writeJson {p : Path} {fault : ArtifactFault} (a : Address)
    (h : writeJson w p v = (.error fault, w')) : World.FailsAt a w w' := by
  have spares : World.SparesAllBut [] w w' ∧ w'.home = w.home := by
    have made := World.sparesAllBut_makeFolders w (p.parent?.getD ⟨[]⟩)
    have home := (World.keeps_makeFolders w (p.parent?.getD ⟨[]⟩) : World.Keeps a w _).home
    obtain ⟨_, failed⟩ | ⟨w₁, -, wrote⟩ := writeJson_cases w p v
    · obtain rfl := (Prod.mk.inj (failed.symm.trans h)).2
      exact ⟨made, home⟩
    · simp [wrote] at h
  exact ⟨spares.2, fun b _ => spares.1 b List.not_mem_nil, .inl spares.1⟩

/-! ## What the output folder holds -/

/-- Whether there is no summary to be read, unless for what stands on the way to it. -/
def HasNoSummary (w : World) (folder : Path) (r : Route) : Prop :=
  IsUsable (summaryPath folder) → (∀ name ∈ r.names, name.length ≤ Files.nameLimit) →
    ∀ content, w.get? (Text.bytes summaryName :: r.address) ≠ some (.file content)

/-- Whether the output folder tells of these records and of no finished run. -/
structure Ongoing (w : World) (folder : Path) (r : Route) (records : List PromptRecord) :
    Prop where
  takes : w.Takes (promptsAt r) folder r
  noSummary : HasNoSummary w folder r
  files : ∀ name content, w.get? (name :: promptsAt r) = some (.file content) ↔
    ∃ x ∈ records, name = recordName x.id ∧ content = Text.bytes x.toJson.page
  passes : records ≠ [] → w.Passes r.base (r.names ++ [Text.bytes promptsName])
  usable : ∀ x ∈ records, IsUsable (recordPath folder x.id) ∧
    (recordName x.id).length ≤ Files.nameLimit

/-- Whether a query leaves alone the files by which a run is read, and the way to them. -/
structure LeavesAlone (folder : Path) (r : Route) (w w' : World) : Prop where
  takes : w.Takes (promptsAt r) folder r → w'.Takes (promptsAt r) folder r
  passes : w.Passes r.base (r.names ++ [Text.bytes promptsName]) →
    w'.Passes r.base (r.names ++ [Text.bytes promptsName])
  records : ∀ name content, w'.get? (name :: promptsAt r) = some (.file content) ↔
    w.get? (name :: promptsAt r) = some (.file content)
  summary : ∀ content, w'.get? (Text.bytes summaryName :: r.address) = some (.file content) →
    w.get? (Text.bytes summaryName :: r.address) = some (.file content)

theorem LeavesAlone.refl (folder : Path) (r : Route) (w : World) : LeavesAlone folder r w w :=
  ⟨id, id, fun _ _ => .rfl, fun _ found => found⟩

theorem LeavesAlone.trans {w'' : World} (h : LeavesAlone folder r w w')
    (h' : LeavesAlone folder r w' w'') : LeavesAlone folder r w w'' where
  takes takes := h'.takes (h.takes takes)
  passes passes := h'.passes (h.passes passes)
  records name content := (h'.records name content).trans (h.records name content)
  summary content found := h.summary content (h'.summary content found)

/-- What changes neither the way nor any file by which a run is read. -/
theorem Ongoing.leftAlone (h : Ongoing w folder r records) (same : LeavesAlone folder r w w') :
    Ongoing w' folder r records where
  takes := same.takes h.takes
  noSummary usable short content found := h.noSummary usable short content (same.summary _ found)
  files name content := (same.records name content).trans (h.files name content)
  passes some_records := same.passes (h.passes some_records)
  usable := h.usable

/-- A folder that is made where there is nothing. -/
theorem leavesAlone_put_folder (free : w.get? a = none) :
    LeavesAlone folder r w (w.put a .folder) := by
  have noFolder : w.get? a ≠ some .folder := by simp [free]
  have file : ∀ b content, (w.put a .folder).get? b = some (.file content) ↔
      w.get? b = some (.file content) := by
    intro b content
    rw [World.get?_put _ _ _ (World.ne_nil_of_get? noFolder)]
    split
    next same => simp [same, free]
    next => rfl
  refine ⟨fun takes => takes.keeps (World.keeps_put noFolder (by simp [free]) (by simp)),
    fun passes => passes.mono fun b found => World.get?_put_of_free free found,
    fun name content => file _ content, fun content => (file _ content).1⟩

theorem leavesAlone_makeFolders (w : World) (p : Path) :
    LeavesAlone folder r w (w.makeFolders p).2 := by
  refine World.makeFirst_induction (I := LeavesAlone folder r w) (fun _ _ alone made => ?_)
    (.refl folder r w)
  obtain ⟨a, -, free, rfl⟩ := World.makeFolder_eq_ok made
  exact alone.trans (leavesAlone_put_folder free)

/-- A file that is put elsewhere, where there is neither a folder nor a link. -/
theorem leavesAlone_put_file {content : Bytes} (noFolder : w.get? a ≠ some .folder)
    (noLink : ∀ target, w.get? a ≠ some (.link target))
    (noRecord : ∀ name, a ≠ name :: promptsAt r)
    (noSummary : a ≠ Text.bytes summaryName :: r.address) :
    LeavesAlone folder r w (w.put a (.file content)) := by
  have other : ∀ b, b ≠ a → (w.put a (.file content)).get? b = w.get? b :=
    fun b differ => by rw [World.get?_put _ _ _ (World.ne_nil_of_get? noFolder), if_neg differ]
  refine ⟨fun takes => takes.keeps (World.keeps_put noFolder noLink (by simp)),
    fun passes => passes.mono fun b found => ?_, fun name content => ?_, fun content found => ?_⟩
  · rw [other b fun same => noFolder (same ▸ found), found]
  · rw [other _ (noRecord name).symm]
  · rwa [other _ noSummary.symm] at found

/-! ## Steps -/

/-- What stands in the output folder does not stand among the records. -/
theorem atFolder_ne_record (name' : Bytes) : name :: r.address ≠ name' :: promptsAt r := by
  intro same
  have := congrArg List.length same
  simp [promptsAt] at this

theorem removeIfPresent_summary (takes : w.Takes (promptsAt r) folder r)
    (passes : w.Passes r.base r.names) (usable : IsUsable (summaryPath folder))
    (h : removeIfPresent w (summaryPath folder) = .ok w') :
    w'.get? (Text.bytes summaryName :: r.address) = none := by
  have leads : ∀ follow, w.locate follow (summaryPath folder) =
      .ok (Text.bytes summaryName :: r.address) := fun follow =>
    (takes.locate_join_eq_ok isName_summaryName).2 ⟨usable, passes, by decide, rfl⟩
  obtain ⟨b, located, -, rfl⟩ | ⟨rfl, absent⟩ := removeIfPresent_cases h
  · obtain rfl := Except.ok.inj ((leads false).symm.trans located)
    rw [World.erase, World.get?_remove, if_pos ⟨List.cons_ne_nil _ _, by simp⟩]
  · simpa [World.isPresent, World.entryAt?, leads, Except.toOption] using absent

/-- Nothing comes where something is removed. -/
theorem found_before_removeIfPresent {p : Path} {e : Entry} (h : removeIfPresent w p = .ok w')
    (found : w'.get? a = some e) : w.get? a = some e := by
  obtain ⟨b, -, -, rfl⟩ | ⟨rfl, -⟩ := removeIfPresent_cases h
  · exact World.get?_remove_eq_some found
  · exact found

theorem found_before_removeRecords {e : Entry} (takes : w.Takes (promptsAt r) folder r)
    (h : removeRecords w folder = .ok w') (found : w'.get? a = some e) : w.get? a = some e := by
  obtain rfl | ⟨rfl, -⟩ := removeRecords_cases takes h
  · exact World.get?_remove_eq_some found
  · exact found

theorem hasNoSummary_of_clear (tree : w.IsTree) (takes : w.Takes (promptsAt r) folder r)
    (h : clear w folder = (.ok (), w')) : HasNoSummary w' folder r := by
  intro usable short content found
  obtain ⟨w₁, w₂, records, mutants, summary⟩ := clear_eq_ok h
  have found₂ := found_before_removeIfPresent summary found
  have found₀ := found_before_removeRecords takes records
    (found_before_removeIfPresent mutants found₂)
  -- a summary stands in a folder, so the way to it is open, before the records go and after
  have present : w.get? (Text.bytes summaryName :: r.address) ≠ none := by simp [found₀]
  have here := tree.get?_tail present
  have first := confined_of_removeRecords takes records
  have second := first.trans (confined_of_removeIfPresent isName_mutantsName not_isForeign_mutants
    (takes.keeps first.keeps) mutants)
  have passes : w₂.Passes r.base r.names := (tree.passes here short).keeps second.keeps
    (not_promptsAt_suffix_of_length (Nat.le_refl _))
  have gone := removeIfPresent_summary (takes.keeps second.keeps) passes usable summary
  simp [gone] at found

/-- A cleared folder tells of no run. -/
theorem ongoing_of_clear (tree : w.IsTree) (takes : w.Takes (promptsAt r) folder r)
    (h : clear w folder = (.ok (), w')) : Ongoing w' folder r [] := by
  have cleared := recorded_of_clear (tree.isSupported _) takes h
  refine ⟨cleared.takes, hasNoSummary_of_clear tree takes h, fun name content => ?_, by simp,
    by simp⟩
  have free : w'.get? (name :: promptsAt r) = none := cleared.entries [name]
  simp [free]

/-- A record that is written comes to those of which the folder tells. -/
theorem ongoing_of_saveRecord (h : Ongoing w folder r records)
    (fresh : ∀ y ∈ records, y.id < x.id) (saved : saveRecord w folder x = (.ok (), w')) :
    Ongoing w' folder r (records ++ [x]) := by
  obtain ⟨w₁, h₁, usable, passes, short, noFolder, rfl⟩ :=
    writeJson_eq_ok (p := promptsPath folder) (r := r.into (Text.bytes promptsName))
      (I := fun w => Ongoing w folder r records) (isName_recordName x.id)
      (fun h => h.takes.join isName_promptsName)
      (fun h _ free => h.leftAlone (leavesAlone_put_folder free)) h saved
  have address : (r.into (Text.bytes promptsName)).address = promptsAt r := Route.address_into r _
  rw [address] at noFolder ⊢
  have put : ∀ b, (w₁.put (recordName x.id :: promptsAt r)
      (.file (Text.bytes x.toJson.page))).get? b = if b = recordName x.id :: promptsAt r then
        some (.file (Text.bytes x.toJson.page)) else w₁.get? b :=
    fun b => World.get?_put _ _ b (List.cons_ne_nil _ _)
  refine ⟨h₁.takes.keeps (World.keeps_put noFolder (h₁.takes.below [_, _]) (by simp)), ?_, ?_, ?_,
    ?_⟩
  · intro usable short content
    rw [put, if_neg (atFolder_ne_record _)]
    exact h₁.noSummary usable short content
  · intro name content
    rw [put]
    by_cases same : name = recordName x.id
    · subst same
      have other : ∀ y ∈ records, recordName x.id ≠ recordName y.id := fun y hy same =>
        absurd (recordName_injective same) (fresh y hy).ne'
      simp only [if_true, List.mem_append, List.mem_singleton]
      constructor
      · rintro ⟨⟩
        exact ⟨x, .inr rfl, rfl, rfl⟩
      · rintro ⟨y, hy | rfl, named, rfl⟩
        · exact absurd named (other y hy)
        · rfl
    · have differ : name :: promptsAt r ≠ recordName x.id :: promptsAt r := by simpa using same
      rw [if_neg differ, h₁.files]
      refine exists_congr fun y => ?_
      simp only [List.mem_append, List.mem_singleton]
      constructor
      · exact fun ⟨hy, named⟩ => ⟨.inl hy, named⟩
      · rintro ⟨hy | rfl, named, held⟩
        · exact ⟨hy, named, held⟩
        · exact absurd named same
  · refine fun _ => passes.mono fun b found => ?_
    rw [put, if_neg, found]
    rintro rfl
    exact noFolder found
  · intro y hy
    obtain hy | rfl := List.mem_append.1 hy |>.imp_right List.mem_singleton.1
    · exact h₁.usable y hy
    · exact ⟨usable, short⟩

/-- Writing the mutants leaves the records alone. -/
theorem ongoing_of_saveMutants {ms : List Mutant} (h : Ongoing w folder r records)
    (saved : saveMutants w folder ms = (.ok (), w')) : Ongoing w' folder r records := by
  obtain ⟨w₁, h₁, -, -, -, noFolder, rfl⟩ :=
    writeJson_eq_ok (p := folder) (r := r) (I := fun w => Ongoing w folder r records)
      isName_mutantsName (fun h => h.takes)
      (fun h _ free => h.leftAlone (leavesAlone_put_folder free)) h saved
  have noSummary : Text.bytes mutantsName ≠ Text.bytes summaryName := by decide
  exact h₁.leftAlone (leavesAlone_put_file noFolder (h₁.takes.below [_]) atFolder_ne_record
    (by simpa using noSummary))

/-! ## What is read -/

/-- No summary and no record is read from an empty file. -/
theorem decode_empty : (Json.decode RunSummary.decoder "").toOption = none ∧
    (Json.decode PromptRecord.decoder "").toOption = none := by
  decide +kernel

namespace Ongoing

variable (h : Ongoing w folder r records) (failed : World.FailsAt a w w')
include h failed

/-- After a write that failed there is no summary to be read. -/
theorem loadSummary_ne_ok (s : RunSummary) : loadSummary w' folder ≠ .ok s := by
  intro loaded
  obtain ⟨content, text, read, held, decoded⟩ := readJson_eq_ok_iff.1 loaded
  obtain ⟨usable, passes, -, found⟩ :=
    ((h.takes.keeps failed.keeps).read_join_eq_ok isName_summaryName).1 read
  obtain before | rfl := failed.file_before found
  · exact h.noSummary usable passes.short content before
  · obtain rfl : "" = text := Option.some.inj held
    simpa [decoded, Except.toOption] using decode_empty.1

/-- So the run is not read back. -/
theorem load_ne_ok (recording : Recording) : Recording.load w' folder ≠ .ok recording := by
  intro loaded
  unfold Recording.load at loaded
  cases summary : loadSummary w' folder with
  | error fault => simp [summary, bind, Except.bind] at loaded
  | ok s => exact h.loadSummary_ne_ok failed s summary

/-- The records that can be read are those that were written before. -/
theorem readJson_record (other : ∀ y ∈ records, recordName y.id :: promptsAt r ≠ a)
    (fits : ∀ y ∈ records, y.Fits) (hname : isName name = true) :
    readJson w' ((promptsPath folder).join ⟨name⟩) PromptRecord.decoder = .ok x ↔
      x ∈ records ∧ name = recordName x.id := by
  have kept : World.Keeps (promptsAt r) w w' := failed.keeps
  have takes := (h.takes.keeps kept).join isName_promptsName
  constructor
  · intro loaded
    obtain ⟨content, text, read, held, decoded⟩ := readJson_eq_ok_iff.1 loaded
    have found := ((takes.read_join_eq_ok hname).1 read).2.2.2
    rw [Route.address_into] at found
    obtain before | rfl := failed.file_before found
    · obtain ⟨y, hy, named, rfl⟩ := (h.files _ _).1 before
      obtain rfl : y.toJson.page = text := by simpa using held
      have same := (PromptRecord.written (fits y hy)).decode_page.symm.trans decoded
      obtain rfl := Except.ok.inj same
      exact ⟨hy, named⟩
    · obtain rfl : "" = text := Option.some.inj held
      simpa [decoded, Except.toOption] using decode_empty.2
  · rintro ⟨hx, rfl⟩
    have passes := (h.passes (List.ne_nil_of_mem hx)).mono fun b => failed.folder_after
    have found := failed.file_after (other x hx) ((h.files _ _).2 ⟨x, hx, rfl, rfl⟩)
    refine readJson_eq_ok takes hname (h.usable x hx).1 passes (h.usable x hx).2 ?_
      (PromptRecord.written (fits x hx))
    rw [Route.address_into]
    exact found

end Ongoing

end Artifacts

end Mutagenesis
