import Mutagenesis.Proofs.Files.Making
import Mutagenesis.Proofs.Run.Stored

/-!
# Output that is written again

Where a run could write its output, a run can write its output again: the folder can be cleared,
and then every record can be written that could be written before, and what the run comes to.
-/
namespace Mutagenesis

open Files (Address Entry World Route IsUsable isName)

namespace Artifacts

variable {w w' : World} {folder : Path} {r : Route} {name : Bytes} {f : Address}

/-- Whether an output folder is there and nothing stands in the way of what a run writes to it. -/
structure Writable (w : World) (folder : Path) (r : Route) : Prop where
  tree : w.IsTree
  takes : w.Takes (promptsAt r) folder r
  passes : w.Passes r.base r.names
  usableMutants : IsUsable (mutantsPath folder)
  usableSummary : IsUsable (summaryPath folder)
  mutants : w.get? (Text.bytes mutantsName :: r.address) ≠ some .folder
  summary : w.get? (Text.bytes summaryName :: r.address) ≠ some .folder
  prompts : ∀ content, w.get? (promptsAt r) ≠ some (.file content)

/-- Whether a record can be written among the others. -/
structure Recordable (w : World) (folder : Path) (r : Route) (id : Nat) : Prop where
  usable : IsUsable (recordPath folder id)
  short : (recordName id).length ≤ Files.nameLimit
  noFolder : w.get? (recordName id :: promptsAt r) ≠ some .folder

/-- Where nothing stands among the records, each can be written that could be written before. -/
theorem Recordable.of_none {id : Nat} (h : Recordable w folder r id)
    (none_left : ∀ b, w'.get? (b ++ promptsAt r) = none) : Recordable w' folder r id :=
  have free : w'.get? (recordName id :: promptsAt r) = none := none_left [recordName id]
  ⟨h.usable, h.short, by simp [free]⟩

namespace Writable

theorem here (h : Writable w folder r) : w.get? r.address = some .folder :=
  h.passes.get?_of_isPrefix h.takes.way.here_base List.prefix_rfl

theorem of_keeps (h : Writable w folder r) (tree : w'.IsTree)
    (kept : World.Keeps (promptsAt r) w w')
    (mutants : w'.get? (Text.bytes mutantsName :: r.address) ≠ some .folder)
    (summary : w'.get? (Text.bytes summaryName :: r.address) ≠ some .folder)
    (prompts : ∀ content, w'.get? (promptsAt r) ≠ some (.file content)) :
    Writable w' folder r :=
  ⟨tree, h.takes.keeps kept, h.passes.keeps kept (not_promptsAt_suffix_of_length le_rfl),
    h.usableMutants, h.usableSummary, mutants, summary, prompts⟩

theorem remove (h : Writable w folder r) {gone : Address → Bool}
    (tree : (w.remove gone).IsTree) (kept : World.Keeps (promptsAt r) w (w.remove gone)) :
    Writable (w.remove gone) folder r :=
  h.of_keeps tree kept (fun found => h.mutants (World.get?_remove_eq_some found))
    (fun found => h.summary (World.get?_remove_eq_some found))
    fun content found => h.prompts content (World.get?_remove_eq_some found)

theorem put_file (h : Writable w folder r) (hname : isName name = true)
    (above : w.get? f = some .folder) (noFolder : w.get? (name :: f) ≠ some .folder)
    (noLink : ∀ target, w.get? (name :: f) ≠ some (.link target)) (other : name :: f ≠ promptsAt r)
    (content : Bytes) : Writable (w.put (name :: f) (.file content)) folder r := by
  have put : ∀ {b e}, (w.put (name :: f) (.file content)).get? b = some e →
      e = .file content ∨ w.get? b = some e := by
    intro b e found
    rw [World.get?_put _ _ _ (List.cons_ne_nil _ _)] at found
    split at found
    next => exact .inl (Option.some.inj found).symm
    next => exact .inr found
  refine h.of_keeps (h.tree.put (.name hname above) fun found => absurd found noFolder)
    (World.keeps_put noFolder noLink (by simp)) (fun found => ?_) (fun found => ?_) ?_
  · exact h.mutants ((put found).resolve_left (by simp))
  · exact h.summary ((put found).resolve_left (by simp))
  · intro content'
    rw [World.get?_put _ _ _ (List.cons_ne_nil _ _), if_neg other.symm]
    exact h.prompts content'

theorem put_prompts (h : Writable w folder r) (missing : w.get? (promptsAt r) = none) :
    Writable (w.put (promptsAt r) .folder) folder r := by
  have other : ∀ {name}, name ≠ Text.bytes promptsName →
      (w.put (promptsAt r) .folder).get? (name :: r.address) = w.get? (name :: r.address) := by
    intro name differ
    have elsewhere : name :: r.address ≠ promptsAt r := fun same => differ (List.cons.inj same).1
    rw [World.get?_put _ _ _ (promptsAt_ne_nil r), if_neg elsewhere]
  refine h.of_keeps (h.tree.put (.name isName_promptsName h.here) (by simp [missing]))
    (World.keeps_put (by simp [missing]) (by simp [missing]) (by simp)) ?_ ?_ ?_
  · rw [other (by decide)]
    exact h.mutants
  · rw [other (by decide)]
    exact h.summary
  · simp [World.get?_put _ _ _ (promptsAt_ne_nil r)]

/-! ### Clearing -/

/-- The folder of records can be removed. -/
theorem exists_removeRecords (h : Writable w folder r) (home : ¬ promptsAt r <:+ w.home) :
    ∃ w', removeRecords w folder = .ok w' ∧ Writable w' folder r ∧
      ∀ b, w'.get? (b ++ promptsAt r) = none := by
  have usable : IsUsable (promptsPath folder) :=
    h.usableMutants.rename isName_mutantsName isName_promptsName (by decide) (by decide)
  have located : w.locate false (promptsPath folder) = .ok (promptsAt r) :=
    (h.takes.locate_join_eq_ok isName_promptsName).2 ⟨usable, h.passes, by decide, rfl⟩
  obtain ⟨w', removed, kind⟩ : ∃ w', removeRecords w folder = .ok w' ∧
      (w' = w ∨ w' = w.eraseTree (promptsAt r)) := by
    cases found : w.get? (promptsAt r) with
    | none =>
        refine ⟨w, ?_, .inl rfl⟩
        simp [removeRecords, World.removeTree, located, found, bind, Except.bind, throw, throwThe,
          MonadExceptOf.throw]
    | some e =>
        cases e with
        | folder =>
            refine ⟨_, ?_, .inr rfl⟩
            simp [removeRecords, World.removeTree, located, found, bind, Except.bind, pure,
              Except.pure]
        | file content => exact absurd found (h.prompts content)
        | link target => exact absurd found (h.takes.below [_] target)
  refine ⟨w', removed, ?_, (removeRecords_eq_ok (h.tree.isSupported _) h.takes removed).2⟩
  obtain rfl | rfl := kind
  · exact h
  · exact h.remove (h.tree.eraseTree home) (World.keeps_eraseTree w _)

/-- So can a file that no folder has the name of. -/
theorem exists_removeIfPresent (h : Writable w folder r) (hname : isName name = true)
    (usable : IsUsable (folder.join ⟨name⟩)) (short : name.length ≤ Files.nameLimit)
    (noFolder : w.get? (name :: r.address) ≠ some .folder) :
    ∃ w', removeIfPresent w (folder.join ⟨name⟩) = .ok w' ∧ Writable w' folder r := by
  have located : ∀ follow, w.locate follow (folder.join ⟨name⟩) = .ok (name :: r.address) :=
    fun follow => (h.takes.locate_join_eq_ok hname).2 ⟨usable, h.passes, short, rfl⟩
  have erased : Writable (w.erase (name :: r.address)) folder r :=
    h.remove (h.tree.erase noFolder) (World.keeps_erase noFolder (h.takes.below [name]))
  cases found : w.get? (name :: r.address) with
  | none =>
      refine ⟨w, ?_, h⟩
      simp [removeIfPresent, World.isPresent, World.entryAt?, located, found, Except.toOption]
  | some e =>
      refine ⟨_, ?_, erased⟩
      cases e with
      | folder => exact absurd found noFolder
      | file | link =>
          simp [removeIfPresent, World.isPresent, World.entryAt?, World.removeFile, located, found,
            Except.toOption, Except.mapError, bind, Except.bind, pure, Except.pure]

/-- The folder can be cleared, and then nothing stands among the records. -/
theorem exists_clear (h : Writable w folder r) (home : ¬ promptsAt r <:+ w.home) :
    ∃ w', clear w folder = (.ok (), w') ∧ Writable w' folder r ∧
      ∀ b, w'.get? (b ++ promptsAt r) = none := by
  obtain ⟨w₁, records, h₁, none_left⟩ := h.exists_removeRecords home
  obtain ⟨w₂, mutants, h₂⟩ := h₁.exists_removeIfPresent isName_mutantsName h.usableMutants
    (by decide) h₁.mutants
  obtain ⟨w₃, summary, h₃⟩ := h₂.exists_removeIfPresent isName_summaryName h.usableSummary
    (by decide) h₂.summary
  have none_left₂ := (removeIfPresent_eq_ok isName_mutantsName h₁.takes none_left mutants).2
  have none_left₃ := (removeIfPresent_eq_ok isName_summaryName h₂.takes none_left₂ summary).2
  have mutants : removeIfPresent w₁ (mutantsPath folder) = .ok w₂ := mutants
  have summary : removeIfPresent w₂ (summaryPath folder) = .ok w₃ := summary
  exact ⟨w₃, by simp only [clear, records, mutants, summary], h₃, none_left₃⟩

/-! ### Writing -/

theorem exists_writeJson (h : Writable w folder r) (hname : isName name = true)
    (usable : IsUsable (folder.join ⟨name⟩)) (short : name.length ≤ Files.nameLimit)
    (noFolder : w.get? (name :: r.address) ≠ some .folder)
    (other : name ≠ Text.bytes promptsName) (v : Json) :
    ∃ w', writeJson w (folder.join ⟨name⟩) v = (.ok (), w') ∧ Writable w' folder r := by
  have made := h.takes.makeFolders_parent hname usable h.passes
  have written := h.takes.write_join hname usable h.passes short noFolder (Text.bytes v.page)
  refine ⟨_, by simp only [writeJson, made, written]; rfl, ?_⟩
  exact h.put_file hname h.here noFolder (h.takes.below [name])
    (fun same => other (List.cons.inj same).1) _

/-- What a run comes to can be written. -/
theorem exists_saveResult (h : Writable w folder r) (ms : List Mutant) (s : RunSummary) :
    ∃ w₁ w', saveMutants w folder ms = (.ok (), w₁) ∧ saveSummary w₁ folder s = (.ok (), w') := by
  obtain ⟨w₁, mutants, h₁⟩ := h.exists_writeJson isName_mutantsName h.usableMutants (by decide)
    h.mutants (by decide) (.arr (ms.map Mutant.toJson))
  obtain ⟨w', summary, -⟩ := h₁.exists_writeJson isName_summaryName h₁.usableSummary (by decide)
    h₁.summary (by decide) s.toJson
  exact ⟨w₁, w', mutants, summary⟩

/-- A record can be written to the folder of the records. -/
theorem exists_write (h : Writable w folder r) (there : w.get? (promptsAt r) = some .folder)
    {id : Nat} (recordable : Recordable w folder r id) (content : Bytes) :
    w.makeFolders ((recordPath folder id).parent?.getD ⟨[]⟩) = (.ok (), w) ∧
      ∃ w', w.write (recordPath folder id) content = .ok w' ∧ Writable w' folder r ∧
        ∀ other, Recordable w folder r other → Recordable w' folder r other := by
  have takes := h.takes.join isName_promptsName
  have address : (r.into (Text.bytes promptsName)).address = promptsAt r := Route.address_into r _
  have passes : w.Passes r.base (r.names ++ [Text.bytes promptsName]) :=
    (World.passes_append _ _ _).2 ⟨h.passes, by decide, there⟩
  have noFolder : w.get? (recordName id :: (r.into (Text.bytes promptsName)).address) ≠
      some .folder := by
    rw [address]
    exact recordable.noFolder
  have written := takes.write_join (isName_recordName id) recordable.usable passes
    recordable.short noFolder content
  rw [address] at written
  refine ⟨takes.makeFolders_parent (isName_recordName id) recordable.usable passes, _, written,
    ?_, fun other recordable' => ⟨recordable'.usable, recordable'.short, ?_⟩⟩
  · refine h.put_file (isName_recordName id) there recordable.noFolder ?_ (by simp) content
    exact h.takes.below [recordName id, Text.bytes promptsName]
  · rw [World.get?_put _ _ _ (List.cons_ne_nil _ _)]
    split
    next => simp
    next => exact recordable'.noFolder

/-- A record can be written whether that folder is there or not. -/
theorem exists_saveRecord (h : Writable w folder r) {x : PromptRecord}
    (recordable : Recordable w folder r x.id) :
    ∃ w', saveRecord w folder x = (.ok (), w') ∧ Writable w' folder r ∧
      ∀ id, Recordable w folder r id → Recordable w' folder r id := by
  cases found : w.get? (promptsAt r) with
  | some e =>
      cases e with
      | folder =>
          obtain ⟨made, w', written, writable, others⟩ :=
            h.exists_write found recordable (Text.bytes x.toJson.page)
          exact ⟨w', by simp only [saveRecord, writeJson, made, written], writable, others⟩
      | file content => exact absurd found (h.prompts content)
      | link target => exact absurd found (h.takes.below [_] target)
  | none =>
      have made := h.takes.makeFolders_parent_of_missing isName_promptsName
        (isName_recordName x.id) recordable.usable h.passes (by decide) found
      have opened : ∀ id, Recordable w folder r id →
          Recordable (w.put (promptsAt r) .folder) folder r id := by
        rintro id ⟨usable, short, noFolder⟩
        refine ⟨usable, short, ?_⟩
        rwa [World.get?_put _ _ _ (promptsAt_ne_nil r), if_neg (by simp)]
      have there : (w.put (promptsAt r) .folder).get? (promptsAt r) = some .folder := by
        rw [World.get?_put _ _ _ (promptsAt_ne_nil r), if_pos rfl]
      obtain ⟨-, w', written, writable, others⟩ := (h.put_prompts found).exists_write there
        (opened x.id recordable) (Text.bytes x.toJson.page)
      have made : w.makeFolders ((recordPath folder x.id).parent?.getD ⟨[]⟩) =
          (.ok (), w.put (promptsAt r) .folder) := made
      exact ⟨w', by simp only [saveRecord, writeJson, made, written], writable,
        fun id recordable' => others id (opened id recordable')⟩

end Writable

/-! ## What has been written -/

variable {avoided a : Address} {p : Path} {v : Json} {content : Bytes}

/-- Where folders are made no file comes up. -/
theorem get?_of_makeFolders_eq_file (q : Path)
    (found : (w.makeFolders q).2.get? a = some (.file content)) :
    w.get? a = some (.file content) := by
  refine World.makeFirst_induction
    (I := fun w' => w'.get? a = some (.file content) → w.get? a = some (.file content))
    (fun {w₁ w₂ q'} _ _ kept made found => ?_) id found
  obtain ⟨b, -, free, rfl⟩ := World.makeFolder_eq_ok made
  have noFolder : w₁.get? b ≠ some .folder := by simp [free]
  rw [World.get?_put _ _ _ (World.ne_nil_of_get? noFolder)] at found
  split at found
  next => simp at found
  next => exact kept found

/-- What it takes to write a value to a file of a folder, and what comes of it. -/
structure Written (avoided : Address) (p : Path) (r : Route) (name : Bytes) (w w' : World) :
    Prop where
  tree : w'.IsTree
  takes : w'.Takes avoided p r
  passes : w'.Passes r.base r.names
  usable : IsUsable (p.join ⟨name⟩)
  short : name.length ≤ Files.nameLimit
  file : ∃ content, w'.get? (name :: r.address) = some (.file content)
  kept : ∀ {a e}, a ≠ name :: r.address → w.get? a = some e → w'.get? a = some e
  files : ∀ {a content}, a ≠ name :: r.address → w'.get? a = some (.file content) →
    w.get? a = some (.file content)

theorem written_of_writeJson (tree : w.IsTree) (aims : w.Aims avoided p r)
    (hname : isName name = true) (h : writeJson w (p.join ⟨name⟩) v = (.ok (), w')) :
    Written avoided p r name w w' := by
  have put := write_of_writeJson h
  have tree₁ := tree.makeFolders ((p.join ⟨name⟩).parent?.getD ⟨[]⟩)
  have aims₁ := aims.keeps (World.keeps_makeFolders w ((p.join ⟨name⟩).parent?.getD ⟨[]⟩))
  have tree₂ := tree₁.write put
  obtain ⟨a, located, noFolder, rfl⟩ := World.write_eq_ok put
  have takes := aims₁.takes_of_join tree₁ hname located
  obtain ⟨usable, passes, short, rfl⟩ := (takes.locate_join_eq_ok hname).1 located
  have nonempty := List.cons_ne_nil name r.address
  exact {
    tree := tree₂
    takes := takes.keeps (World.keeps_put noFolder (takes.below [name]) (by simp))
    passes := passes.mono fun b =>
      World.get?_put_folder nonempty fun found => absurd found noFolder
    usable := usable
    short := short
    file := ⟨_, by rw [World.get?_put _ _ _ nonempty, if_pos rfl]⟩
    kept := fun other found => by
      rw [World.get?_put _ _ _ nonempty, if_neg other, World.get?_makeFolders _ found]
    files := fun other found => by
      rw [World.get?_put _ _ _ nonempty, if_neg other] at found
      exact get?_of_makeFolders_eq_file _ found }

/-- Where a record has been written, it can be written, and there is the folder of the records. -/
theorem recordable_of_saveRecord (tree : w.IsTree) (aims : w.Aims avoided folder r)
    {x : PromptRecord} (saved : saveRecord w folder x = (.ok (), w')) :
    Recordable w' folder r x.id ∧ w'.get? (promptsAt r) = some .folder := by
  have written :=
    written_of_writeJson tree (aims.join isName_promptsName) (isName_recordName x.id) saved
  obtain ⟨content, file⟩ := written.file
  rw [Route.address_into] at file
  refine ⟨⟨written.usable, written.short, ?_⟩, ?_⟩
  · simp [promptsAt, file]
  · exact ((World.passes_append r.base r.names _).1 written.passes).2.2

/-- Where what a run comes to has been written, a run can write its output. -/
theorem writable_of_saved (tree : w.IsTree) (aims : w.Aims (promptsAt r) folder r)
    (prompts : ∀ content, w.get? (promptsAt r) ≠ some (.file content)) {w₁ : World}
    {ms : List Mutant} {s : RunSummary} (mutants : saveMutants w folder ms = (.ok (), w₁))
    (summary : saveSummary w₁ folder s = (.ok (), w')) : Writable w' folder r := by
  have first := written_of_writeJson tree aims isName_mutantsName mutants
  have second := written_of_writeJson first.tree first.takes.aims isName_summaryName summary
  obtain ⟨content, file⟩ := first.file
  obtain ⟨content', file'⟩ := second.file
  have outside : ∀ {a b : Bytes}, a ≠ b → a :: r.address ≠ b :: r.address := fun differ same =>
    differ (List.cons.inj same).1
  refine ⟨second.tree, second.takes, second.passes, first.usable, second.usable, ?_, ?_, ?_⟩
  · simp [second.kept (outside (by decide)) file]
  · simp [file']
  · intro content found
    exact prompts content
      (first.files (outside (by decide)) (second.files (outside (by decide)) found))

end Artifacts

end Mutagenesis
