import Mutagenesis.Proofs.Files.Routes
import Mutagenesis.Proofs.Json.Summaries
import Mutagenesis.Proofs.Numeral
import Mutagenesis.Run.Artifacts

/-!
# What the output folder holds

`Recorded` says what a run knows of its output folder: the folder of records holds a file for each
of them and nothing else. Clearing the folder brings this about with no records, and writing a
record or what the run comes to keeps it. Records, mutants and summary read back from such a folder.
-/
namespace Mutagenesis

open Files (Address Entry World Route IsUsable isName)

namespace Artifacts

/-! ## Names -/

/-- The name of the file in which the record of a prompt is kept. -/
def recordName (id : Nat) : Bytes :=
  Text.bytes ("prompt" ++ String.ofList (Text.numeral id) ++ ".json")

theorem recordName_eq (id : Nat) :
    recordName id = Text.bytes "prompt" ++ (Text.numeral id).flatMap String.utf8EncodeChar ++
      Text.bytes ".json" := by
  simp [recordName, Text.bytes, List.utf8Encode]

theorem recordName_injective {m n : Nat} (h : recordName m = recordName n) : m = n := by
  have same := Text.bytes_injective h
  have := congrArg String.toList same
  simp only [String.toList_append, List.append_cancel_right_eq, List.append_cancel_left_eq,
    String.toList_ofList] at this
  exact Text.numeral_injective this

/-- A numeral is written in the bytes of its digits. -/
theorem notMem_numeral {b : UInt8}
    (digits : ∀ d < 10, b ∉ String.utf8EncodeChar (Text.digitChar d)) (id : Nat) :
    b ∉ (Text.numeral id).flatMap String.utf8EncodeChar := by
  intro h
  obtain ⟨c, hc, hb⟩ := List.mem_flatMap.1 h
  obtain ⟨d, hd, rfl⟩ := Text.exists_digit_of_mem_numeral hc
  exact digits d hd hb

theorem isName_recordName (id : Nat) : isName (recordName id) = true := by
  have first : recordName id = 0x70 :: (recordName id).tail := by
    rw [recordName_eq]
    rfl
  refine Files.isName_iff.2 ⟨⟨?_, ?_⟩, ?_⟩
  · rw [first]
    simp [Files.isIdle, Files.dot]
  · rw [first]
    simp [Files.isUp, Files.dot]
  · rw [recordName_eq]
    have before : Files.slash ∉ Text.bytes "prompt" := by decide
    have after : Files.slash ∉ Text.bytes ".json" := by decide
    simp [before, after, notMem_numeral (b := Files.slash) (by decide) id]

theorem zero_notMem_recordName (id : Nat) : 0 ∉ recordName id := by
  rw [recordName_eq]
  have before : 0 ∉ Text.bytes "prompt" := by decide
  have after : 0 ∉ Text.bytes ".json" := by decide
  simp [before, after, notMem_numeral (b := 0) (by decide) id]

theorem isRecordName_recordName (id : Nat) : isRecordName (recordName id) = true := by
  have ending : Text.bytes ".json" = Files.dot :: Text.bytes "json" := by decide
  have noDot : Files.dot ∉ Text.bytes "json" := by decide
  have stem : Text.bytes "prompt" ++ (Text.numeral id).flatMap String.utf8EncodeChar ≠ [] := by
    have : Text.bytes "prompt" ≠ [] := by decide
    simp [this]
  have split := Files.splitExtension?_append stem noDot
  rw [← ending, ← recordName_eq] at split
  simp [isRecordName, Path.extension?, Path.fileName?_of_isName (isName_recordName id), split]

/-! ## The folder of records -/

/-- The address of the folder of records, for the route of the output folder. -/
def promptsAt (r : Route) : Address := Text.bytes promptsName :: r.address

theorem promptsAt_ne_nil (r : Route) : promptsAt r ≠ [] := List.cons_ne_nil _ _

/-- What stands below the folder of records, which need not be there when there are none. -/
def recordsAt (made : Bool) (records : List PromptRecord) : Address → Option Entry
  | [] => if made then some .folder else none
  | [name] =>
      (records.find? fun x => recordName x.id = name).map fun x => .file (Text.bytes x.toJson.page)
  | _ => none

/-- Whether the output folder holds these records, in the order of their numbers, and no others. -/
structure Recorded (w : World) (folder : Path) (r : Route) (made : Bool)
    (records : List PromptRecord) : Prop where
  takes : w.Takes (promptsAt r) folder r
  entries : ∀ b, w.get? (b ++ promptsAt r) = recordsAt made records b
  names : w.names (promptsAt r) = (records.map (recordName ·.id)).reverse
  usable : ∀ x ∈ records, IsUsable (recordPath folder x.id) ∧
    (recordName x.id).length ≤ Files.nameLimit
  increasing : records.Pairwise (·.id < ·.id)

variable {w w' : World} {folder : Path} {r : Route} {made : Bool} {records : List PromptRecord}
  {a : Address} {e : Entry} {name : Bytes} {v : Json}

theorem isName_promptsName : isName (Text.bytes promptsName) = true := by decide

theorem isName_mutantsName : isName (Text.bytes mutantsName) = true := by decide

theorem isName_summaryName : isName (Text.bytes summaryName) = true := by decide

theorem not_promptsAt_suffix_of_length (h : a.length ≤ r.address.length) :
    ¬ promptsAt r <:+ a := by
  intro inside
  have := inside.length_le
  simp only [promptsAt, List.length_cons] at this
  omega

theorem not_promptsAt_suffix_of_ne (h : name ≠ Text.bytes promptsName) :
    ¬ promptsAt r <:+ name :: r.address := by
  intro inside
  have same := inside.eq_of_length (by simp [promptsAt])
  exact h (List.cons.inj same).1.symm

/-- What stands on the names of a route before its end is not below its end. -/
theorem not_promptsAt_suffix_of_isPrefix {front : List Bytes} (h : front <+: r.names) :
    ¬ promptsAt r <:+ front.reverse ++ r.base := by
  refine not_promptsAt_suffix_of_length ?_
  have := h.length_le
  simp only [Route.address, List.length_append, List.length_reverse]
  omega

/-- A path of names takes a route where there are no links. -/
theorem takes_of_names {p : Path} (hr : r = ⟨0, World.start w.home p, p.steps⟩) (tree : w.IsTree)
    (noLinks : w.hasNoLinks = true) (named : ∀ name ∈ r.names, isName name = true) :
    w.Takes (promptsAt r) p r :=
  World.Takes.of_names hr tree noLinks named
    (not_promptsAt_suffix_of_length (by simp [Route.address]))

namespace Recorded

/-- A change elsewhere that keeps the way to the folder keeps the records. -/
theorem put_outside (h : Recorded w folder r made records) (outside : ¬ promptsAt r <:+ a)
    (noFolder : w.get? a ≠ some .folder) (noLink : ∀ target, w.get? a ≠ some (.link target))
    (he : ∀ target, e ≠ .link target) : Recorded (w.put a e) folder r made records := by
  have nonempty := World.ne_nil_of_get? noFolder
  refine ⟨h.takes.keeps (World.keeps_put noFolder noLink he), ?_, ?_, h.usable, h.increasing⟩
  · intro b
    have other : b ++ promptsAt r ≠ a := by
      rintro rfl
      exact outside (List.suffix_append b _)
    rw [World.get?_put w e _ nonempty, if_neg other, h.entries]
  · rw [World.names_put_of_ne, h.names]
    rintro n rfl
    exact outside (List.suffix_cons n _)

end Recorded

/-! ## Clearing -/

/-- The records are removed with their folder, if there is one. -/
theorem removeRecords_cases (takes : w.Takes (promptsAt r) folder r)
    (h : removeRecords w folder = .ok w') : w' = w.eraseTree (promptsAt r) ∨
      w' = w ∧ w.removeTree (promptsPath folder) = .error .missing := by
  unfold removeRecords at h
  split at h
  next w₁ removed =>
    obtain rfl := Except.ok.inj h
    exact .inl (takes.removeTree_eq_ok isName_promptsName removed)
  next missing => exact .inr ⟨(Except.ok.inj h).symm, missing⟩
  next => simp at h

theorem removeFile_of_removeIfPresent {p : Path} (h : removeIfPresent w p = .ok w') :
    w.removeFile p = .ok w' ∨ w' = w ∧ w.isPresent p = false := by
  unfold removeIfPresent at h
  split at h
  next =>
    cases removed : w.removeFile p with
    | error fault => simp [removed, Except.mapError] at h
    | ok w₁ =>
        obtain rfl : w₁ = w' := by simpa [removed, Except.mapError] using h
        exact .inl rfl
  next absent => exact .inr ⟨(Except.ok.inj h).symm, by simpa using absent⟩

/-- A file is removed where its path leads, if there is one. -/
theorem removeIfPresent_cases {p : Path} (h : removeIfPresent w p = .ok w') :
    (∃ b, w.locate false p = .ok b ∧ w.get? b ≠ some .folder ∧ w' = w.erase b) ∨
      w' = w ∧ w.isPresent p = false :=
  (removeFile_of_removeIfPresent h).imp World.removeFile_eq_ok id

/-- Clearing takes the records first and the summary last. -/
theorem clear_eq_ok (h : clear w folder = (.ok (), w')) :
    ∃ w₁ w₂, removeRecords w folder = .ok w₁ ∧ removeIfPresent w₁ (mutantsPath folder) = .ok w₂ ∧
      removeIfPresent w₂ (summaryPath folder) = .ok w' := by
  unfold clear at h
  split at h
  next => simp at h
  next w₁ records =>
    split at h
    next => simp at h
    next w₂ mutants =>
      split at h
      next => simp at h
      next w₃ summary =>
        obtain rfl := (Prod.mk.inj h).2
        exact ⟨w₁, w₂, records, mutants, summary⟩

theorem removeRecords_eq_ok (supported : w.IsSupported (promptsAt r))
    (takes : w.Takes (promptsAt r) folder r) (h : removeRecords w folder = .ok w') :
    w'.Takes (promptsAt r) folder r ∧ ∀ b, w'.get? (b ++ promptsAt r) = none := by
  obtain rfl | ⟨rfl, missing⟩ := removeRecords_cases takes h
  · refine ⟨takes.keeps (World.keeps_eraseTree w _), fun b => ?_⟩
    have within : World.isWithin (promptsAt r) (b ++ promptsAt r) = true :=
      List.isSuffixOf_iff_suffix.2 (List.suffix_append b _)
    rw [World.eraseTree, World.get?_remove, if_pos ⟨by simp [promptsAt], within⟩]
  · exact ⟨takes, takes.get?_eq_none_of_removeTree supported isName_promptsName missing⟩

theorem removeIfPresent_eq_ok (hname : isName name = true)
    (takes : w.Takes (promptsAt r) folder r) (none_left : ∀ b, w.get? (b ++ promptsAt r) = none)
    (h : removeIfPresent w (folder.join ⟨name⟩) = .ok w') :
    w'.Takes (promptsAt r) folder r ∧ ∀ b, w'.get? (b ++ promptsAt r) = none := by
  obtain ⟨a, located, noFolder, rfl⟩ | ⟨rfl, -⟩ := removeIfPresent_cases h
  · obtain rfl := ((takes.locate_join_eq_ok hname).1 located).2.2.2
    refine ⟨takes.keeps (World.keeps_erase noFolder (takes.below [name])), fun b => ?_⟩
    rw [World.erase, World.get?_remove, none_left, ite_self]
  · exact ⟨takes, none_left⟩

/-- A cleared folder holds no records. -/
theorem recorded_of_clear (supported : w.IsSupported (promptsAt r))
    (takes : w.Takes (promptsAt r) folder r) (h : clear w folder = (.ok (), w')) :
    Recorded w' folder r false [] := by
  obtain ⟨w₁, w₂, records, mutants, summary⟩ := clear_eq_ok h
  obtain ⟨takes, none_left⟩ := removeRecords_eq_ok supported takes records
  obtain ⟨takes, none_left⟩ := removeIfPresent_eq_ok isName_mutantsName takes none_left mutants
  obtain ⟨takes, none_left⟩ := removeIfPresent_eq_ok isName_summaryName takes none_left summary
  refine ⟨takes, ?_, ?_, by simp, by simp⟩
  · intro b
    rw [none_left]
    match b with
    | [] | [_] | _ :: _ :: _ => rfl
  · exact World.names_eq_nil fun n => none_left [n]

/-! ## Writing -/

/-- Writing a value makes the folders above it, also when it meets a fault, and where it meets none
it writes the file. -/
theorem writeJson_cases (w : World) (p : Path) (v : Json) :
    (∃ fault, writeJson w p v = (.error fault, (w.makeFolders (p.parent?.getD ⟨[]⟩)).2)) ∨
      ∃ w', (w.makeFolders (p.parent?.getD ⟨[]⟩)).2.write p (Text.bytes v.page) = .ok w' ∧
        writeJson w p v = (.ok (), w') := by
  rcases makes : w.makeFolders (p.parent?.getD ⟨[]⟩) with ⟨fault | ⟨⟩, w₁⟩
  · exact .inl ⟨.files (p.parent?.getD ⟨[]⟩) fault, by simp only [writeJson, makes]⟩
  · cases written : w₁.write p (Text.bytes v.page) with
    | error fault => exact .inl ⟨.files p fault, by simp only [writeJson, makes, written]⟩
    | ok w' => exact .inr ⟨w', rfl, by simp only [writeJson, makes, written]⟩

theorem write_of_writeJson {p : Path} (h : writeJson w p v = (.ok (), w')) :
    (w.makeFolders (p.parent?.getD ⟨[]⟩)).2.write p (Text.bytes v.page) = .ok w' := by
  obtain ⟨fault, failed⟩ | ⟨w₁, written, wrote⟩ := writeJson_cases w p v
  · simp [failed] at h
  · rw [wrote] at h
    exact (Prod.mk.inj h).2 ▸ written

/-- Writing a value puts a file where its path leads once the folders are made. -/
theorem writeJson_eq_ok {I : World → Prop} {avoided : Address} {p : Path}
    (hname : isName name = true) (takes : ∀ {w}, I w → w.Takes avoided p r)
    (step : ∀ {w front}, I w → front <+: r.names → w.get? (front.reverse ++ r.base) = none →
      I (w.put (front.reverse ++ r.base) .folder))
    (hw : I w) (h : writeJson w (p.join ⟨name⟩) v = (.ok (), w')) :
    ∃ w₁, I w₁ ∧ IsUsable (p.join ⟨name⟩) ∧ w₁.Passes r.base r.names ∧
      name.length ≤ Files.nameLimit ∧ w₁.get? (name :: r.address) ≠ some .folder ∧
      w' = w₁.put (name :: r.address) (.file (Text.bytes v.page)) := by
  have made := World.makeFolders_induction (p.leadsAlong_parent hname) takes step hw
  obtain ⟨a, located, noFolder, rfl⟩ := World.write_eq_ok (write_of_writeJson h)
  obtain ⟨usable, passes, short, rfl⟩ := ((takes made).locate_join_eq_ok hname).1 located
  exact ⟨_, made, usable, passes, short, noFolder, rfl⟩

/-- Making the folder of records is no matter to the records. -/
theorem Recorded.put_prompts (h : Recorded w folder r made records)
    (free : w.get? (promptsAt r) = none) :
    Recorded (w.put (promptsAt r) .folder) folder r true records := by
  refine ⟨h.takes.keeps (World.keeps_put (by simp [free]) (by simp [free]) (by simp)), ?_, ?_,
    h.usable, h.increasing⟩
  · intro b
    rw [World.get?_put w .folder _ (promptsAt_ne_nil r), h.entries]
    match b with
    | [] => simp [recordsAt]
    | n :: b =>
        have other : n :: b ++ promptsAt r ≠ promptsAt r := by
          intro same
          have := congrArg List.length same
          simp only [List.length_append, List.length_cons] at this
          omega
        rw [if_neg other]
        cases b <;> rfl
  · rw [World.names_put_of_ne, h.names]
    intro n same
    simpa using congrArg List.length same

/-- Making a folder on the way to the records, where there is nothing, is no matter to them. -/
theorem Recorded.put_made (h : Recorded w folder r made records) {front : List Bytes}
    (hfront : front <+: (r.into (Text.bytes promptsName)).names)
    (free : w.get? (front.reverse ++ r.base) = none) :
    ∃ made, Recorded (w.put (front.reverse ++ r.base) .folder) folder r made records := by
  obtain rfl | before := List.prefix_concat_iff.1 hfront
  · have same : (r.names ++ [Text.bytes promptsName]).reverse ++ r.base = promptsAt r := by
      simp [promptsAt, Route.address]
    rw [same] at free ⊢
    exact ⟨true, h.put_prompts free⟩
  · exact ⟨made, h.put_outside (not_promptsAt_suffix_of_isPrefix before) (by simp [free])
      (by simp [free]) (by simp)⟩

/-- There is no file yet for a record whose number is new. -/
theorem recordsAt_of_fresh {x : PromptRecord} (fresh : ∀ y ∈ records, y.id < x.id) :
    recordsAt made records [recordName x.id] = none := by
  have absent : records.find? (fun y => decide (recordName y.id = recordName x.id)) = none := by
    rw [List.find?_eq_none]
    intro y hy same
    have := recordName_injective (by simpa using same)
    have := fresh y hy
    omega
  simp [recordsAt, absent]

theorem recordsAt_append {x : PromptRecord} (fresh : ∀ y ∈ records, y.id < x.id)
    (b : Address) : recordsAt made (records ++ [x]) b =
      if b = [recordName x.id] then some (.file (Text.bytes x.toJson.page))
      else recordsAt made records b := by
  have absent : recordsAt made records [recordName x.id] = none := recordsAt_of_fresh fresh
  match b with
  | [] => rfl
  | [n] =>
      by_cases same : n = recordName x.id
      · subst same
        simp only [recordsAt, Option.map_eq_none_iff] at absent
        simp [recordsAt, List.find?_append, absent]
      · have differ : recordName x.id ≠ n := Ne.symm same
        simp [recordsAt, List.find?_append, same, differ]
  | _ :: _ :: _ => simp [recordsAt]

/-- A record that is written comes to those that the folder holds. -/
theorem recorded_of_saveRecord {x : PromptRecord} (h : Recorded w folder r made records)
    (fresh : ∀ y ∈ records, y.id < x.id) (saved : saveRecord w folder x = (.ok (), w')) :
    Recorded w' folder r true (records ++ [x]) := by
  obtain ⟨w₁, ⟨made₁, h₁⟩, usable, passes, short, noFolder, rfl⟩ :=
    writeJson_eq_ok (p := promptsPath folder) (r := r.into (Text.bytes promptsName))
      (I := fun w => ∃ made, Recorded w folder r made records) (isName_recordName x.id)
      (fun ⟨_, h⟩ => h.takes.join isName_promptsName) (fun ⟨_, h⟩ => h.put_made) ⟨made, h⟩ saved
  have address : (r.into (Text.bytes promptsName)).address = promptsAt r := Route.address_into r _
  rw [address] at noFolder ⊢
  have there : w₁.get? (promptsAt r) = some .folder :=
    ((World.passes_append r.base r.names _).1 passes).2.2
  obtain rfl : made₁ = true := by
    have := h₁.entries []
    simpa [there, recordsAt] using this
  have free : w₁.get? (recordName x.id :: promptsAt r) = none :=
    (h₁.entries [recordName x.id]).trans (recordsAt_of_fresh fresh)
  refine ⟨h₁.takes.keeps (World.keeps_put noFolder (by simp [free]) (by simp)), ?_, ?_, ?_, ?_⟩
  · intro b
    rw [recordsAt_append fresh, World.get?_put _ _ _ (List.cons_ne_nil _ _), h₁.entries]
    have same : b ++ promptsAt r = recordName x.id :: promptsAt r ↔ b = [recordName x.id] := by
      rw [← List.singleton_append, List.append_cancel_right_eq]
    simp only [same]
  · rw [World.names_put_of_free free, h₁.names]
    simp
  · intro y hy
    obtain hy | rfl := List.mem_append.1 hy |>.imp_right List.mem_singleton.1
    · exact h₁.usable y hy
    · exact ⟨usable, short⟩
  · rw [List.pairwise_append]
    exact ⟨h₁.increasing, List.pairwise_singleton _ _, by simpa using fresh⟩

end Artifacts

end Mutagenesis
