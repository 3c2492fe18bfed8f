import Mutagenesis.Proofs.Files.Emptying
import Mutagenesis.Proofs.Files.Vacancy
import Mutagenesis.Proofs.Number.Shortest
import Mutagenesis.Proofs.Run.Loading

/-!
# The folder of records as a map

Records may be saved in any order and again under the same number, and other files may be put beside
them. The folder of records then holds for each number the record that was saved last under it, and
this is what is loaded, in whatever order the folder is listed. When it is cleared, it holds
nothing.
-/
namespace Mutagenesis.Artifacts

open Files (Address Entry World Route IsUsable isName)

variable {w w' : World} {folder : Path} {front : List Bytes} {r : Route}
  {saved records : List PromptRecord} {x : PromptRecord} {name content : Bytes} {id : Nat}

/-! ## Names of records -/

theorem length_recordName_le (h : id ≤ 0xFFFFFFFFFFFFFFFF) :
    (recordName id).length ≤ Files.nameLimit := by
  have bytes : ((Text.numeral id).flatMap String.utf8EncodeChar).length =
      (Text.numeral id).length := by
    have single : ∀ d < 10, (String.utf8EncodeChar (Text.digitChar d)).length = 1 := by decide
    rw [List.length_flatMap, List.map_eq_replicate_iff.2 fun c hc => ?_, List.sum_replicate_nat,
      Nat.mul_one]
    obtain ⟨d, hd, rfl⟩ := Text.exists_digit_of_mem_numeral hc
    exact single d hd
  have digits : (Text.numeral id).length ≤ 20 := by
    by_cases zero : id = 0
    · simp [zero, Text.numeral_of_lt]
    · have := Text.pow_length_numeral_le zero
      have below : 10 ^ ((Text.numeral id).length - 1) < 10 ^ 20 := by omega
      have := (Nat.pow_lt_pow_iff_right (by decide)).1 below
      omega
  rw [recordName_eq, List.length_append, List.length_append, bytes]
  have ends : (Text.bytes "prompt").length + (Text.bytes ".json").length = 11 := by decide
  have limit : Files.nameLimit = 255 := rfl
  omega

theorem recordPath_eq (folder : Path) (id : Nat) :
    recordPath folder id = (promptsPath folder).join ⟨recordName id⟩ := rfl

/-- The path of a record can be used when it is short enough. -/
theorem isUsable_recordPath (h : IsUsable (promptsPath folder))
    (short : (recordPath folder id).bytes.length < Files.pathLimit) :
    IsUsable (recordPath folder id) := by
  refine ⟨?_, short⟩
  have before : 0 ∉ (promptsPath folder).opened := by
    have slash : (0 : UInt8) ≠ Files.slash := by decide
    unfold Path.opened
    split <;> simp [h.noZero, slash]
  rw [recordPath_eq, Path.join_eq _ (Path.isAbsolute_of_isName (isName_recordName id))]
  simp [before, zero_notMem_recordName id]

/-! ## What is done in the folder -/

/-- Puts a file into the folder of records, which is made where there is none. -/
def putFile (w : World) (folder : Path) (name content : Bytes) : Except Files.Fault Unit × World :=
  match w.makeFolders (promptsPath folder) with
  | (.error fault, w) => (.error fault, w)
  | (.ok (), w) =>
      match w.write ((promptsPath folder).join ⟨name⟩) content with
      | .error fault => (.error fault, w)
      | .ok w => (.ok (), w)

/-- Something that is done in the folder of records. -/
inductive Filing where
  | save (x : PromptRecord)
  /-- A file is put there by other means. -/
  | put (name content : Bytes)

namespace Filing

/-- Whether the numbers of a record fit their words, and a file that is put is not named as records
are. -/
def IsProper : Filing → Prop
  | save x => x.Fits
  | put name _ => isName name = true ∧ isRecordName name = false

def record? : Filing → Option PromptRecord
  | save x => some x
  | put _ _ => none

/-- The files after something is done, and the records that could be saved so far. -/
def act (folder : Path) (s : World × List PromptRecord) : Filing → World × List PromptRecord
  | save x =>
      match saveRecord s.1 folder x with
      | (.ok (), w) => (w, s.2 ++ [x])
      | (.error _, w) => (w, s.2)
  | put name content => ((putFile s.1 folder name content).2, s.2)

/-- The files after several things are done in turn, and the records that could be saved. -/
def run (folder : Path) (fs : List Filing) (w : World) : World × List PromptRecord :=
  fs.foldl (act folder) (w, [])

end Filing

/-! ## What the folder holds -/

/-- The record that was saved last under a number. -/
def last? (saved : List PromptRecord) (id : Nat) : Option PromptRecord :=
  (saved.filter fun x => decide (x.id = id)).getLast?

theorem last?_concat (saved : List PromptRecord) (x : PromptRecord) (id : Nat) :
    last? (saved ++ [x]) id = if x.id = id then some x else last? saved id := by
  by_cases same : x.id = id <;> simp [last?, List.filter_append, same]

theorem mem_of_last? (h : last? saved id = some x) : x ∈ saved ∧ x.id = id := by
  simpa using List.mem_filter.1 (List.mem_of_getLast? h)

/-- Whether the folder of records holds under each number the record that was saved last, and no
other file is named as records are. -/
structure Filed (w : World) (folder : Path) (front : List Bytes) (r : Route)
    (saved : List PromptRecord) : Prop where
  leads : w.Leads (promptsPath folder) front r
  held : ∀ id, w.get? (recordName id :: r.address) =
    (last? saved id).map fun x => .file (Text.bytes x.toJson.page)
  named : ∀ name, isRecordName name = true → w.get? (name :: r.address) ≠ none →
    ∃ id, name = recordName id
  each : ∀ x ∈ saved, x.Fits ∧ IsUsable (recordPath folder x.id)

/-- Where there is no folder of records, there are none. -/
theorem filed_of_vacant {a : Address} (tree : w.IsTree) (vacant : w.Vacant (promptsPath folder) a) :
    ∃ front r, Filed w folder front r [] := by
  obtain ⟨front, r, rfl, free, leads⟩ := vacant.leads tree
  have none_left : ∀ name, w.get? (name :: r.address) = none :=
    fun name => tree.get?_append_eq_none free [name]
  exact ⟨front, r, leads, fun id => none_left _, fun name _ found => absurd (none_left name) found,
    by simp⟩

namespace Filed

theorem noFolder (h : Filed w folder front r saved) (id : Nat) :
    w.get? (recordName id :: r.address) ≠ some .folder := by
  rw [h.held]
  cases last? saved id <;> simp

/-- Making folders on the way is no matter to the records. -/
theorem makeFolders (h : Filed w folder front r saved) {q : Path}
    (along : q.LeadsAlong (promptsPath folder).isAbsolute (promptsPath folder).steps) :
    Filed (w.makeFolders q).2 folder front r saved := by
  have same : ∀ name, (w.makeFolders q).2.get? (name :: r.address) = w.get? (name :: r.address) :=
    fun name => h.leads.get?_makeFolders_below along (List.cons_ne_nil name [])
  exact ⟨h.leads.makeFolders along, fun id => (same _).trans (h.held id),
    fun name isRecord found => h.named name isRecord (same name ▸ found), h.each⟩

/-- Nor is a file of another name. -/
theorem put_other (h : Filed w folder front r saved) (other : isRecordName name = false)
    (leads : (w.put (name :: r.address) (.file content)).Leads (promptsPath folder) front r) :
    Filed (w.put (name :: r.address) (.file content)) folder front r saved := by
  have same : ∀ n, isRecordName n = true →
      (w.put (name :: r.address) (.file content)).get? (n :: r.address) =
        w.get? (n :: r.address) := by
    intro n isRecord
    rw [World.get?_put _ _ _ (List.cons_ne_nil _ _), if_neg]
    intro address
    obtain ⟨rfl, -⟩ := List.cons.inj address
    simp [other] at isRecord
  exact ⟨leads, fun id => (same _ (isRecordName_recordName id)).trans (h.held id),
    fun n isRecord found => h.named n isRecord (same n isRecord ▸ found), h.each⟩

/-- A record takes the place of those that were saved before under its number. -/
theorem put_record (h : Filed w folder front r saved) (fits : x.Fits)
    (usable : IsUsable (recordPath folder x.id))
    (leads : (w.put (recordName x.id :: r.address) (.file (Text.bytes x.toJson.page))).Leads
      (promptsPath folder) front r) :
    Filed (w.put (recordName x.id :: r.address) (.file (Text.bytes x.toJson.page))) folder front r
      (saved ++ [x]) := by
  refine ⟨leads, fun id => ?_, fun name isRecord found => ?_, ?_⟩
  · rw [World.get?_put _ _ _ (List.cons_ne_nil _ _), last?_concat, h.held]
    by_cases same : x.id = id
    · simp [same]
    · have other : recordName id ≠ recordName x.id := fun h => same (recordName_injective h).symm
      simp [same, other]
  · by_cases same : name = recordName x.id
    · exact ⟨x.id, same⟩
    · rw [World.get?_put _ _ _ (List.cons_ne_nil _ _), if_neg (by simp [same])] at found
      exact h.named name isRecord found
  · intro y hy
    obtain hy | rfl := List.mem_append.1 hy |>.imp_right List.mem_singleton.1
    · exact h.each y hy
    · exact ⟨fits, usable⟩

/-- What is put into the folder by other means is no matter to the records. -/
theorem putFile (h : Filed w folder front r saved) (hname : isName name = true)
    (other : isRecordName name = false) (content : Bytes) :
    Filed (putFile w folder name content).2 folder front r saved := by
  have made := h.makeFolders ⟨List.prefix_rfl, .inr rfl, .inr h.leads.firm⟩
  unfold Artifacts.putFile
  rcases makes : w.makeFolders (promptsPath folder) with ⟨_ | ⟨⟩, w₁⟩
  · rwa [makes] at made
  · rw [makes] at made
    dsimp only
    split
    next => exact made
    next w₂ written =>
      obtain ⟨-, rfl, leads⟩ := made.leads.put_of_write hname written
      exact made.put_other other leads

/-- A record is saved exactly if its path is short enough, and otherwise the others stay. -/
theorem saveRecord (h : Filed w folder front r saved) (fits : x.Fits) :
    ((saveRecord w folder x).1 = .ok () ∧ (recordPath folder x.id).bytes.length < Files.pathLimit ∧
        Filed (saveRecord w folder x).2 folder front r (saved ++ [x])) ∨
      (∃ fault, (saveRecord w folder x).1 = .error fault) ∧
        ¬ (recordPath folder x.id).bytes.length < Files.pathLimit ∧
        Filed (saveRecord w folder x).2 folder front r saved := by
  have along := (promptsPath folder).leadsAlong_parent (isName_recordName x.id)
  obtain ⟨steps, within⟩ := (promptsPath folder).steps_parent (isName_recordName x.id)
  have made := h.makeFolders along
  have makes (short : (recordPath folder x.id).bytes.length < Files.pathLimit) :=
    h.leads.makeFolders_eq_ok ((isUsable_recordPath h.leads.usable short).of_isPrefix within) along
      steps
  unfold Artifacts.saveRecord writeJson
  dsimp only
  rw [recordPath_eq] at makes ⊢
  rcases paved : w.makeFolders (((promptsPath folder).join ⟨recordName x.id⟩).parent?.getD ⟨[]⟩)
    with ⟨_ | ⟨⟩, w₁⟩
  · rw [paved] at made makes
    exact .inr ⟨⟨_, rfl⟩, fun short => by simpa using (makes short).1, made⟩
  · rw [paved] at made makes
    dsimp only
    split
    next fault failed =>
      refine .inr ⟨⟨_, rfl⟩, fun short => ?_, made⟩
      have written := made.leads.takes.write_join (isName_recordName x.id)
        (isUsable_recordPath h.leads.usable short) (made.leads.passes (makes short).2)
        (length_recordName_le fits.id) (made.noFolder x.id) (Text.bytes x.toJson.page)
      exact absurd (failed.symm.trans written) (by simp)
    next w₂ written =>
      obtain ⟨usable, rfl, leads⟩ := made.leads.put_of_write (isName_recordName x.id) written
      exact .inl ⟨rfl, usable.short, made.put_record fits usable leads⟩

/-- Listing the entries in another order is no matter. -/
theorem relists (h : Filed w folder front r saved) (relists : w.Relists w') :
    Filed w' folder front r saved := by
  have same := relists.get?_eq h.leads.tree
  exact ⟨h.leads.of_get?_eq (relists.isTree h.leads.tree) relists.home same,
    fun id => (same _).trans (h.held id), fun name isRecord found => h.named name isRecord
      (same (name :: r.address) ▸ found), h.each⟩

/-! ## Loading -/

/-- Each file of the folder that is named as records are holds a record that was saved last under
its number. -/
theorem read (h : Filed w folder front r saved) (there : w.get? r.address = some .folder)
    (listed : name ∈ w.names r.address) (isRecord : isRecordName name = true) :
    ∃ x, readJson w ((promptsPath folder).join ⟨name⟩) PromptRecord.decoder = .ok x ∧
      name = recordName x.id ∧ last? saved x.id = some x := by
  have found := World.mem_names_iff.1 listed
  obtain ⟨id, rfl⟩ := h.named name isRecord found
  rw [h.held] at found
  cases last : last? saved id with
  | none => simp [last] at found
  | some x =>
      obtain ⟨hx, rfl⟩ := mem_of_last? last
      obtain ⟨fits, usable⟩ := h.each x hx
      refine ⟨x, ?_, rfl, last⟩
      refine readJson_eq_ok h.leads.takes (isName_recordName x.id) usable (h.leads.passes there)
        (length_recordName_le fits.id) ?_ (PromptRecord.written fits)
      rw [h.held, last]
      rfl

/-- So one record is read for each of these files. -/
theorem exists_reads (h : Filed w folder front r saved) (there : w.get? r.address = some .folder) :
    ∃ read, List.Forall₂ (fun name x =>
        readJson w ((promptsPath folder).join ⟨name⟩) PromptRecord.decoder = .ok x)
        ((w.names r.address).filter isRecordName) read ∧
      (w.names r.address).filter isRecordName = read.map (recordName ·.id) ∧
      ∀ x ∈ read, last? saved x.id = some x := by
  obtain ⟨read, each⟩ := exists_forall₂ fun name (hname : name ∈
    (w.names r.address).filter isRecordName) =>
      h.read there (List.mem_filter.1 hname).1 (List.mem_filter.1 hname).2
  refine ⟨read, each.imp fun _ _ h => h.1, ?_, fun x hx => ?_⟩
  · rw [← List.forall₂_eq_eq_eq, List.forall₂_map_right_iff]
    exact each.imp fun _ _ h => h.2.1
  · obtain ⟨-, -, -, -, last⟩ := exists_of_forall₂ each hx
    exact last

/-- The records are loaded that were saved last under their numbers, in the order of these. -/
theorem loadRecords_eq_ok (h : Filed w folder front r saved) :
    ∃ records, loadRecords w folder = .ok records ∧ records.Pairwise (·.id < ·.id) ∧
      ∀ x, x ∈ records ↔ last? saved x.id = some x := by
  obtain free | there := h.leads.passable r.names List.prefix_rfl
  · refine ⟨[], by simp [loadRecords, h.leads.list_eq_missing free], .nil, fun x => ?_⟩
    have none_left : w.get? (recordName x.id :: r.address) = none :=
      h.leads.tree.get?_append_eq_none free [recordName x.id]
    rw [h.held, Option.map_eq_none_iff] at none_left
    simp [none_left]
  · obtain ⟨read, each, names, last⟩ := h.exists_reads there
    have distinct : (read.map (·.id)).Nodup := by
      have nodup : (read.map (recordName ·.id)).Nodup :=
        names ▸ (h.leads.tree.nodup_names r.address).sublist List.filter_sublist
      refine List.Nodup.of_map recordName ?_
      rwa [List.map_map]
    refine ⟨_, loadRecords_of_list (h.leads.list_eq_ok there) each, increasing_mergeSort distinct,
      fun x => ?_⟩
    rw [List.mem_mergeSort]
    refine ⟨last x, fun saved => ?_⟩
    -- the file of the record is listed, and what is read from it has its number
    have listed : recordName x.id ∈ (w.names r.address).filter isRecordName := by
      rw [List.mem_filter, World.mem_names_iff, h.held, saved]
      exact ⟨by simp, isRecordName_recordName x.id⟩
    rw [names] at listed
    obtain ⟨y, hy, same⟩ := List.mem_map.1 listed
    have saved' := last y hy
    rw [recordName_injective same, saved] at saved'
    exact Option.some.inj saved' ▸ hy

end Filed

/-! ## Clearing -/

theorem shrinks_of_removeRecords (h : removeRecords w folder = .ok w') :
    World.Shrinks w w' ∧ w'.IsVoid (promptsPath folder) := by
  unfold removeRecords at h
  split at h
  next w₁ removed =>
    obtain rfl := Except.ok.inj h
    exact World.isVoid_of_removeTree isName_promptsName removed
  next missing =>
    obtain rfl := Except.ok.inj h
    exact ⟨.refl w, World.removeTree_eq_missing_iff.1 missing⟩
  next => simp at h

theorem removeRecords_of_isVoid (void : w.IsVoid (promptsPath folder)) :
    removeRecords w folder = .ok w := by
  simp [removeRecords, World.removeTree_eq_missing_iff.2 void]

theorem shrinks_of_removeIfPresent {p : Path} (h : removeIfPresent w p = .ok w') :
    World.Shrinks w w' ∧ w'.isPresent p = false := by
  obtain removed | ⟨rfl, absent⟩ := removeFile_of_removeIfPresent h
  · obtain ⟨shrinks, void⟩ := World.isVoid_of_removeFile removed
    exact ⟨shrinks, void.isPresent⟩
  · exact ⟨.refl _, absent⟩

theorem removeIfPresent_of_absent {p : Path} (absent : w.isPresent p = false) :
    removeIfPresent w p = .ok w := by
  simp [removeIfPresent, absent]

/-- Clearing again changes nothing and comes to the same. -/
theorem clear_clear (w : World) (folder : Path) :
    clear (clear w folder).2 folder = clear w folder := by
  cases records : removeRecords w folder with
  | error fault => simp [clear, records]
  | ok w₁ =>
      obtain ⟨-, void⟩ := shrinks_of_removeRecords records
      cases mutants : removeIfPresent w₁ (mutantsPath folder) with
      | error fault => simp [clear, records, mutants, removeRecords_of_isVoid void]
      | ok w₂ =>
          obtain ⟨shrinks, absent⟩ := shrinks_of_removeIfPresent mutants
          have void := shrinks.isVoid void
          cases summary : removeIfPresent w₂ (summaryPath folder) with
          | error fault =>
              simp [clear, records, mutants, summary, removeRecords_of_isVoid void,
                removeIfPresent_of_absent absent]
          | ok w₃ =>
              obtain ⟨shrinks, absent'⟩ := shrinks_of_removeIfPresent summary
              simp [clear, records, mutants, summary,
                removeRecords_of_isVoid (shrinks.isVoid void),
                removeIfPresent_of_absent (shrinks.isPresent absent),
                removeIfPresent_of_absent absent']

theorem exists_removeIfPresent {p : Path} (noFolder : w.isFolder p = false) :
    ∃ w', removeIfPresent w p = .ok w' := by
  cases present : w.isPresent p with
  | false => exact ⟨w, removeIfPresent_of_absent present⟩
  | true =>
      obtain ⟨w', removed⟩ := World.exists_removeFile present noFolder
      exact ⟨w', by simp [removeIfPresent, present, removed, Except.mapError]⟩

/-- When the records are removed, clearing the folder removes no more than it should. -/
theorem shrinks_of_clear {w₁ : World} (records : removeRecords w folder = .ok w₁) :
    World.Shrinks w₁ (clear w folder).2 := by
  cases mutants : removeIfPresent w₁ (mutantsPath folder) with
  | error fault => simpa [clear, records, mutants] using World.Shrinks.refl w₁
  | ok w₂ =>
      have shrinks := (shrinks_of_removeIfPresent mutants).1
      cases summary : removeIfPresent w₂ (summaryPath folder) with
      | error fault => simpa [clear, records, mutants, summary] using shrinks
      | ok w₃ =>
          simpa [clear, records, mutants, summary] using
            shrinks.trans (shrinks_of_removeIfPresent summary).1

/-- When the records are removed, clearing the folder succeeds unless a folder has the name of the
mutants or of the summary. -/
theorem clear_of_noFolder {w₁ : World} (records : removeRecords w folder = .ok w₁)
    (noMutants : w.isFolder (mutantsPath folder) = false)
    (noSummary : w.isFolder (summaryPath folder) = false) : (clear w folder).1 = .ok () := by
  have shrinks := (shrinks_of_removeRecords records).1
  obtain ⟨w₂, mutants⟩ := exists_removeIfPresent (shrinks.isFolder noMutants)
  have shrinks := shrinks.trans (shrinks_of_removeIfPresent mutants).1
  obtain ⟨w₃, summary⟩ := exists_removeIfPresent (shrinks.isFolder noSummary)
  simp [clear, records, mutants, summary]

namespace Filed

theorem exists_removeRecords (h : Filed w folder front r saved) :
    ∃ w', removeRecords w folder = .ok w' := by
  obtain missing | ⟨w', removed⟩ := h.leads.removeTree_cases
  · exact ⟨w, by simp [removeRecords, missing]⟩
  · exact ⟨w', by simp [removeRecords, removed]⟩

/-- A cleared folder holds no records, even if something else of it could not be removed. -/
theorem loadRecords_clear (h : Filed w folder front r saved) :
    loadRecords (clear w folder).2 folder = .ok [] := by
  obtain ⟨w₁, records⟩ := h.exists_removeRecords
  have void := (shrinks_of_clear records).isVoid (shrinks_of_removeRecords records).2
  simp [loadRecords, void.list]

end Filed

/-! ## Several things in turn -/

/-- Whether the path of a record is short enough. -/
def isShort (folder : Path) (x : PromptRecord) : Bool :=
  decide ((recordPath folder x.id).bytes.length < Files.pathLimit)

/-- Whatever is done, the folder holds the record that was saved last under each number. -/
theorem Filed.act {s : World × List PromptRecord} (h : Filed s.1 folder front r s.2) {f : Filing}
    (proper : f.IsProper) :
    Filed (f.act folder s).1 folder front r (f.act folder s).2 ∧
      (f.act folder s).2 = s.2 ++ f.record?.toList.filter (isShort folder) := by
  cases f with
  | put name content =>
      exact ⟨h.putFile proper.1 proper.2 content, by simp [Filing.act, Filing.record?]⟩
  | save x =>
      have saved := h.saveRecord proper
      rcases saves : Artifacts.saveRecord s.1 folder x with ⟨outcome, w⟩
      rw [saves] at saved
      dsimp only at saved
      obtain ⟨rfl, short, filed⟩ | ⟨⟨fault, rfl⟩, long, filed⟩ := saved
      · simpa [Filing.act, saves, Filing.record?, isShort, short] using filed
      · simpa [Filing.act, saves, Filing.record?, isShort, long] using filed

theorem Filed.foldl {fs : List Filing} {s : World × List PromptRecord}
    (h : Filed s.1 folder front r s.2) (proper : ∀ f ∈ fs, f.IsProper) :
    Filed (fs.foldl (Filing.act folder) s).1 folder front r (fs.foldl (Filing.act folder) s).2 ∧
      (fs.foldl (Filing.act folder) s).2 =
        s.2 ++ (fs.filterMap Filing.record?).filter (isShort folder) := by
  induction fs generalizing s with
  | nil => exact ⟨h, by simp⟩
  | cons f fs ih =>
      rw [List.forall_mem_cons] at proper
      obtain ⟨filed, saved⟩ := h.act proper.1
      obtain ⟨filed, saved'⟩ := ih filed proper.2
      refine ⟨filed, ?_⟩
      rw [List.foldl_cons, saved', saved, List.append_assoc, ← List.filter_append]
      cases recorded : f.record? <;> simp [recorded]

/-- Where there is no folder of records, records are saved in any order and other files are put
beside them. A record can be saved exactly if its path is short enough. However the folder is listed
then, one record is loaded for each number under which some were saved, the last of them, in the
order of the numbers. Clearing leaves no records, and clearing again changes nothing; it succeeds
unless a folder has the name of the mutants or of the summary. -/
theorem saved_records_form_map {w : World} {folder : Path} {a : Address} (tree : w.IsTree)
    (vacant : w.Vacant (promptsPath folder) a) {fs : List Filing}
    (proper : ∀ f ∈ fs, f.IsProper) :
    let after := (Filing.run folder fs w).1
    let saved := (Filing.run folder fs w).2
    saved = (fs.filterMap Filing.record?).filter (fun x =>
        decide ((recordPath folder x.id).bytes.length < Files.pathLimit)) ∧
      ∀ listed, after.Relists listed →
        (∃ records, loadRecords listed folder = .ok records ∧ records.Pairwise (·.id < ·.id) ∧
          ∀ x, x ∈ records ↔ (saved.filter fun y => decide (y.id = x.id)).getLast? = some x) ∧
        loadRecords (clear listed folder).2 folder = .ok [] ∧
        clear (clear listed folder).2 folder = clear listed folder ∧
        (listed.isFolder (mutantsPath folder) = false →
          listed.isFolder (summaryPath folder) = false → (clear listed folder).1 = .ok ()) := by
  obtain ⟨front, r, filed⟩ := filed_of_vacant tree vacant
  obtain ⟨filed, saved⟩ := Filed.foldl (s := (w, [])) filed proper
  refine ⟨saved, fun listed relists => ?_⟩
  have filed := filed.relists relists
  obtain ⟨w₁, records⟩ := filed.exists_removeRecords
  exact ⟨filed.loadRecords_eq_ok, filed.loadRecords_clear, clear_clear listed folder,
    clear_of_noFolder records⟩

/-- The tenth prompt is recorded, a file is put beside the record, the second prompt is recorded and
then the tenth one again. -/
theorem saved_records_form_map_of_three :
    let w : World := ⟨[], []⟩
    let second : PromptRecord := ⟨2, "t", .between "a.py" (1, 0) (1, 1), .failed⟩
    let tenth : PromptRecord := ⟨10, "u", .between "b.py" (1, 0) (1, 1), .failed⟩
    let again : PromptRecord := { tenth with outcome := .completed ⟨["g"], .zero⟩ }
    let fs := [.save tenth, .put (Text.bytes "notes.txt") (Text.bytes "1"), .save second,
      .save again]
    w.IsTree ∧ w.Vacant (promptsPath (.ofString "r")) [Text.bytes "prompts", Text.bytes "r"] ∧
      (∀ f ∈ fs, Filing.IsProper f) ∧
      let after := (Filing.run (.ofString "r") fs w).1
      let saved := (Filing.run (.ofString "r") fs w).2
      saved = [tenth, second, again] ∧
        ∀ listed, after.Relists listed →
          (∃ records, loadRecords listed (.ofString "r") = .ok records ∧
            records.Pairwise (·.id < ·.id) ∧ second ∈ records ∧ again ∈ records ∧
              tenth ∉ records) ∧
          loadRecords (clear listed (.ofString "r")).2 (.ofString "r") = .ok [] := by
  intro w second tenth again fs
  have tree : w.IsTree := by decide
  have free : w.Vacant ((⟨[]⟩ : Path).join ⟨Text.bytes "r"⟩) [Text.bytes "r"] :=
    .here (by decide) (by rfl) (by rfl)
  have vacant : w.Vacant (promptsPath (.ofString "r")) [Text.bytes "prompts", Text.bytes "r"] :=
    .inside free (by decide) (by decide) (by decide) (by decide) ⟨by decide, by decide⟩
  have fits : ∀ x ∈ [tenth, second, again], x.Fits := by
    simp only [List.forall_mem_cons, List.not_mem_nil, false_implies, implies_true, and_true]
    refine ⟨⟨by decide, ?_, trivial⟩, ⟨by decide, ?_, trivial⟩, by decide, ?_, ?_⟩ <;>
      constructor <;> decide
  have proper : ∀ f ∈ fs, Filing.IsProper f := by
    simp only [fs, List.forall_mem_cons, List.not_mem_nil, false_implies, implies_true, and_true]
    exact ⟨fits _ (by simp), ⟨by decide, by decide⟩, fits _ (by simp), fits _ (by simp)⟩
  have short : ∀ id ≤ 0xFFFFFFFFFFFFFFFF,
      (recordPath (.ofString "r") id).bytes.length < Files.pathLimit := by
    intro id small
    have name := length_recordName_le small
    have opened : (promptsPath (.ofString "r")).opened.length = 10 := by decide
    have limits : Files.nameLimit + 10 < Files.pathLimit := by decide
    rw [recordPath_eq, Path.join_eq _ (Path.isAbsolute_of_isName (isName_recordName id)),
      List.length_append, opened]
    dsimp only
    omega
  obtain ⟨saved, loads⟩ := saved_records_form_map tree vacant proper
  have all : (Filing.run (.ofString "r") fs w).2 = [tenth, second, again] :=
    saved.trans (List.filter_eq_self.2 fun x hx => decide_eq_true (short x.id (fits x hx).id))
  refine ⟨tree, vacant, proper, all, fun listed relists => ?_⟩
  obtain ⟨⟨records, loaded, increasing, last⟩, cleared, -⟩ := loads listed relists
  rw [all] at last
  refine ⟨⟨records, loaded, increasing, ?_, ?_, ?_⟩, cleared⟩
  · exact (last second).2 (by decide)
  · exact (last again).2 (by decide)
  · exact fun loaded => absurd ((last tenth).1 loaded) (by decide)

end Mutagenesis.Artifacts
