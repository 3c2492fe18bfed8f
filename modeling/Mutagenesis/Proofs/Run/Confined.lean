import Mutagenesis.Proofs.Files.Removal
import Mutagenesis.Proofs.Run.Frame

/-!
# What a run can reach

A run can reach the folder of its records and the files of its mutants and its summary, and it makes
folders on the way to them. `Confined` says of two worlds that no more than this has happened
between them. Each step of a run is confined, also one that meets a fault, and so is a run over a
model that changes no files. The other folders and links are still there afterwards, so paths that
lead elsewhere lead where they did.
-/
namespace Mutagenesis

open Files (Address Entry World Route isName)
open Artifacts (promptsAt)

namespace Artifacts

/-- Whether an address is none of those that a run writes to or clears. -/
structure IsForeign (r : Route) (a : Address) : Prop where
  notMutants : a ≠ Text.bytes mutantsName :: r.address
  notSummary : a ≠ Text.bytes summaryName :: r.address
  notPrompts : ¬ promptsAt r <:+ a

/-- Whether a run into a folder can have made the second world of the first one. -/
structure Confined (r : Route) (w w' : World) : Prop where
  keeps : World.Keeps (promptsAt r) w w'
  kept : ∀ {a e}, IsForeign r a → w.get? a = some e → w'.get? a = some e
  free : ∀ {a}, IsForeign r a → ¬ a <:+ r.address → w.get? a = none → w'.get? a = none
  names : ∀ {f}, ¬ f <:+ r.address → ¬ promptsAt r <:+ f → w'.names f = w.names f

variable {w w' w'' : World} {folder : Path} {r : Route} {a f : Address} {e : Entry} {name : Bytes}
  {v : Json}

/-- The addresses of a run stand in its folder or in that of its records. -/
theorem above_of_not_isForeign (own : ¬ IsForeign r (name :: f)) :
    f <:+ r.address ∨ promptsAt r <:+ f := by
  apply Decidable.byContradiction
  rw [not_or]
  rintro ⟨outside, noRecord⟩
  have elsewhere : ∀ n, name :: f ≠ n :: r.address := by
    intro n same
    exact outside ((List.cons.inj same).2 ▸ List.suffix_rfl)
  refine own ⟨elsewhere _, elsewhere _, fun inside => ?_⟩
  obtain same | inside := List.suffix_cons_iff.1 inside
  · exact elsewhere _ same.symm
  · exact noRecord inside

namespace Confined

theorem refl (r : Route) (w : World) : Confined r w w :=
  ⟨.refl _ w, fun _ found => found, fun _ _ free => free, fun _ _ => rfl⟩

theorem trans (h : Confined r w w') (h' : Confined r w' w'') : Confined r w w'' :=
  ⟨h.keeps.trans h'.keeps, fun foreign found => h'.kept foreign (h.kept foreign found),
    fun foreign outside free => h'.free foreign outside (h.free foreign outside free),
    fun outside noRecord => (h'.names outside noRecord).trans (h.names outside noRecord)⟩

/-- A file that takes the place of nothing or of a file, at an address of the run. -/
theorem put_own (own : ¬ IsForeign r a) (noFolder : w.get? a ≠ some .folder)
    (noLink : ∀ target, w.get? a ≠ some (.link target)) (he : ∀ target, e ≠ .link target) :
    Confined r w (w.put a e) := by
  have nonempty := World.ne_nil_of_get? noFolder
  have same : ∀ {b}, IsForeign r b → (w.put a e).get? b = w.get? b := by
    intro b foreign
    rw [World.get?_put w e b nonempty, if_neg]
    rintro rfl
    exact own foreign
  refine ⟨World.keeps_put noFolder noLink he, fun foreign found => by rwa [same foreign],
    fun foreign _ free => by rwa [same foreign], fun outside noRecord => ?_⟩
  refine World.names_put_of_ne ?_
  rintro n rfl
  obtain above | above := above_of_not_isForeign own
  · exact outside above
  · exact noRecord above

/-- A folder that is made on the way to those of the run. -/
theorem put_made (on : a <:+ promptsAt r) (free : w.get? a = none) :
    Confined r w (w.put a .folder) := by
  have noFolder : w.get? a ≠ some .folder := by simp [free]
  refine ⟨World.keeps_put noFolder (by simp [free]) (by simp),
    fun _ found => World.get?_put_of_free free found, fun {b} foreign outside missing => ?_,
    fun {f} outside noRecord => ?_⟩
  · rw [World.get?_put _ _ _ (World.ne_nil_of_get? noFolder), if_neg, missing]
    rintro rfl
    obtain rfl | above := List.suffix_cons_iff.1 on
    · exact foreign.notPrompts List.suffix_rfl
    · exact outside above
  · refine World.names_put_of_ne ?_
    rintro n rfl
    obtain same | above := List.suffix_cons_iff.1 on
    · exact outside ((List.cons.inj same).2 ▸ List.suffix_rfl)
    · exact outside ((List.suffix_cons n f).trans above)

/-- Addresses of the run from which entries are removed. -/
theorem remove {gone : Address → Bool} (own : ∀ b, gone b = true → ¬ IsForeign r b)
    (keeps : World.Keeps (promptsAt r) w (w.remove gone)) : Confined r w (w.remove gone) := by
  have same : ∀ {b}, IsForeign r b → (w.remove gone).get? b = w.get? b := by
    intro b foreign
    rw [World.get?_remove, if_neg]
    rintro ⟨-, hgone⟩
    exact own b hgone foreign
  refine ⟨keeps, fun foreign found => by rwa [same foreign],
    fun foreign _ free => by rwa [same foreign], fun {f} outside noRecord => ?_⟩
  refine World.names_remove fun n => Bool.eq_false_iff.2 fun hgone => ?_
  obtain above | above := above_of_not_isForeign (own _ hgone)
  · exact outside above
  · exact noRecord above

end Confined

/-! ## Folders apart -/

/-- Whether neither of two folders lies in the other. -/
def IsApart (r r' : Route) : Prop := ¬ r.address <:+ r'.address ∧ ¬ r'.address <:+ r.address

theorem IsApart.isForeign {r' : Route} (apart : IsApart r r') (b : Address) :
    IsForeign r' (b ++ r.address) ∧ ¬ b ++ r.address <:+ r'.address := by
  have notBelow : ¬ r'.address <:+ b ++ r.address := by
    intro below
    obtain above | below := List.suffix_or_suffix_of_suffix below (List.suffix_append b r.address)
    · exact apart.2 above
    · exact apart.1 below
  refine ⟨⟨?_, ?_, ?_⟩, fun above => apart.1 ((List.suffix_append b r.address).trans above)⟩
  · exact fun same => notBelow (same ▸ List.suffix_cons _ _)
  · exact fun same => notBelow (same ▸ List.suffix_cons _ _)
  · exact fun below => notBelow ((List.suffix_cons _ _).trans below)

/-- What stands in a folder apart stays as it is. -/
theorem Confined.get?_of_isApart {r' : Route} (h : Confined r' w w') (apart : IsApart r r')
    (b : Address) : w'.get? (b ++ r.address) = w.get? (b ++ r.address) := by
  obtain ⟨foreign, outside⟩ := apart.isForeign b
  cases found : w.get? (b ++ r.address) with
  | none => exact h.free foreign outside found
  | some e => exact h.kept foreign found

/-- No folder that leads to the records of a folder apart is one of the addresses of a run. -/
theorem IsApart.isForeign_above {r' : Route} (apart : IsApart r r') {above : Address}
    (h : above <:+ promptsAt r) : IsForeign r' above := by
  have notAbove : ¬ r'.address <:+ above := by
    intro inside
    obtain same | inside := List.suffix_cons_iff.1 (inside.trans h)
    · exact apart.1 (same ▸ List.suffix_cons _ _)
    · exact apart.2 inside
  refine ⟨?_, ?_, fun inside => notAbove ((List.suffix_cons _ _).trans inside)⟩
  all_goals
    rintro rfl
    exact notAbove (List.suffix_cons _ _)

/-- The records of a folder apart keep all that leads to them, whatever becomes of the home. -/
theorem Confined.isSupported {r' : Route} (h : Confined r' w w') (tree : w.IsTree)
    (apart : IsApart r r') : w'.IsSupported (promptsAt r) := by
  intro above on missing b
  have free : w.get? above = none := by
    refine Option.eq_none_iff_forall_ne_some.2 fun e found => ?_
    simp [h.kept (apart.isForeign_above on) found] at missing
  have same := h.get?_of_isApart apart (b ++ [Text.bytes promptsName])
  rw [List.append_assoc] at same
  exact same.trans (tree.isSupported (promptsAt r) above on free b)

/-! ## Steps -/

theorem not_isForeign_mutants : ¬ IsForeign r (Text.bytes mutantsName :: r.address) :=
  fun foreign => foreign.notMutants rfl

theorem not_isForeign_summary : ¬ IsForeign r (Text.bytes summaryName :: r.address) :=
  fun foreign => foreign.notSummary rfl

theorem not_isForeign_below (name : Bytes) : ¬ IsForeign r (name :: promptsAt r) :=
  fun foreign => foreign.notPrompts (List.suffix_cons _ _)

theorem confined_of_removeRecords (takes : w.Takes (promptsAt r) folder r)
    (h : removeRecords w folder = .ok w') : Confined r w w' := by
  obtain rfl | ⟨rfl, -⟩ := removeRecords_cases takes h
  · refine Confined.remove (fun b within foreign => ?_) (World.keeps_eraseTree w _)
    exact foreign.notPrompts (List.isSuffixOf_iff_suffix.1 within)
  · exact .refl r _

theorem confined_of_removeIfPresent (hname : isName name = true)
    (own : ¬ IsForeign r (name :: r.address)) (takes : w.Takes (promptsAt r) folder r)
    (h : removeIfPresent w (folder.join ⟨name⟩) = .ok w') : Confined r w w' := by
  obtain ⟨b, located, noFolder, rfl⟩ | ⟨rfl, -⟩ := removeIfPresent_cases h
  · obtain rfl := ((takes.locate_join_eq_ok hname).1 located).2.2.2
    refine Confined.remove (fun b same => ?_) (World.keeps_erase noFolder (takes.below [name]))
    obtain rfl : b = name :: r.address := by simpa using same
    exact own
  · exact .refl r _

theorem confined_clear (takes : w.Takes (promptsAt r) folder r) :
    Confined r w (clear w folder).2 := by
  unfold clear
  cases records : removeRecords w folder with
  | error fault => exact .refl r w
  | ok w₁ =>
      have first := confined_of_removeRecords takes records
      have takes₁ := takes.keeps first.keeps
      cases mutants : removeIfPresent w₁ (mutantsPath folder) with
      | error fault => simpa [mutants] using first
      | ok w₂ =>
          have second := first.trans (confined_of_removeIfPresent isName_mutantsName
            not_isForeign_mutants takes₁ mutants)
          have takes₂ := takes.keeps second.keeps
          cases summary : removeIfPresent w₂ (summaryPath folder) with
          | error fault => simpa [mutants, summary] using second
          | ok w₃ =>
              have third := confined_of_removeIfPresent isName_summaryName not_isForeign_summary
                takes₂ summary
              simpa [mutants, summary] using second.trans third

/-- A value that is written to a file of the run. -/
theorem confined_writeJson {p : Path} {q : Route} (hname : isName name = true)
    (takes : w.Takes (promptsAt r) p q) (own : ¬ IsForeign r (name :: q.address))
    (on : ∀ front, front <+: q.names → front.reverse ++ q.base <:+ promptsAt r) :
    Confined r w (writeJson w (p.join ⟨name⟩) v).2 := by
  have made : Confined r w (w.makeFolders ((p.join ⟨name⟩).parent?.getD ⟨[]⟩)).2 :=
    World.makeFolders_induction (p.leadsAlong_parent hname) (fun h => takes.keeps h.keeps)
      (fun h hfront free => h.trans (.put_made (on _ hfront) free)) (.refl r w)
  obtain ⟨_, failed⟩ | ⟨w', written, wrote⟩ := writeJson_cases w (p.join ⟨name⟩) v
  · exact failed ▸ made
  · obtain ⟨b, located, noFolder, rfl⟩ := World.write_eq_ok written
    have takes₁ := takes.keeps made.keeps
    obtain rfl := ((takes₁.locate_join_eq_ok hname).1 located).2.2.2
    exact wrote ▸ made.trans (.put_own own noFolder (takes₁.below [name]) (by simp))

/-- The folders on the way to the output folder lie above its records. -/
theorem front_suffix {q : Route} {front : List Bytes} (h : front <+: q.names) :
    front.reverse ++ q.base <:+ q.address := by
  obtain ⟨more, names⟩ := h
  rw [Route.address, ← names, List.reverse_append, List.append_assoc]
  exact List.suffix_append _ _

theorem confined_saveRecord (takes : w.Takes (promptsAt r) folder r) (x : PromptRecord) :
    Confined r w (saveRecord w folder x).2 := by
  have address : (r.into (Text.bytes promptsName)).address = promptsAt r := Route.address_into r _
  refine confined_writeJson (isName_recordName x.id) (takes.join isName_promptsName) ?_ ?_
  · rw [address]
    exact not_isForeign_below _
  · exact fun front hfront => address ▸ front_suffix hfront

theorem confined_saveMutants (takes : w.Takes (promptsAt r) folder r) (ms : List Mutant) :
    Confined r w (saveMutants w folder ms).2 :=
  confined_writeJson isName_mutantsName takes not_isForeign_mutants
    fun _ hfront => (front_suffix hfront).trans (List.suffix_cons _ _)

theorem confined_saveSummary (takes : w.Takes (promptsAt r) folder r) (s : RunSummary) :
    Confined r w (saveSummary w folder s).2 :=
  confined_writeJson isName_summaryName takes not_isForeign_summary
    fun _ hfront => (front_suffix hfront).trans (List.suffix_cons _ _)

/-! ## Trees -/

/-- Writing a value keeps a tree, also when it meets a fault. -/
theorem isTree_writeJson (tree : w.IsTree) (p : Path) (v : Json) : (writeJson w p v).2.IsTree := by
  have made := tree.makeFolders (p.parent?.getD ⟨[]⟩)
  obtain ⟨_, failed⟩ | ⟨w', written, wrote⟩ := writeJson_cases w p v
  · exact failed ▸ made
  · exact wrote ▸ made.write written

theorem isTree_of_removeIfPresent (tree : w.IsTree) {p : Path}
    (h : removeIfPresent w p = .ok w') : w'.IsTree := by
  obtain removed | ⟨rfl, -⟩ := removeFile_of_removeIfPresent h
  · exact tree.removeFile removed
  · exact tree

/-- Clearing an output folder keeps a tree whose home is not among the records. -/
theorem isTree_clear (tree : w.IsTree) (takes : w.Takes (promptsAt r) folder r)
    (home : ¬ promptsAt r <:+ w.home) : (clear w folder).2.IsTree := by
  have removes : ∀ {w₁}, removeRecords w folder = .ok w₁ → w₁.IsTree := by
    intro w₁ h
    obtain rfl | ⟨rfl, -⟩ := removeRecords_cases takes h
    · exact tree.eraseTree home
    · exact tree
  unfold clear
  cases records : removeRecords w folder with
  | error fault => exact tree
  | ok w₁ =>
      have tree₁ := removes records
      cases mutants : removeIfPresent w₁ (mutantsPath folder) with
      | error fault => simpa [mutants] using tree₁
      | ok w₂ =>
          have tree₂ := isTree_of_removeIfPresent tree₁ mutants
          cases summary : removeIfPresent w₂ (summaryPath folder) with
          | error fault => simpa [mutants, summary] using tree₂
          | ok w₃ => simpa [mutants, summary] using isTree_of_removeIfPresent tree₂ summary

end Artifacts

/-! ## Runs -/

namespace Job

open Artifacts (Confined)

variable {σ : Type} {j : Job} {m : Model σ} {folder : Path} {r : Route} {w : World}

theorem confined_clear (output : j.output = some folder) (takes : w.Takes (promptsAt r) folder r) :
    Confined r w (j.clear w).2 := by
  rw [clear, output]
  exact Artifacts.confined_clear takes

theorem confined_save (output : j.output = some folder) (takes : w.Takes (promptsAt r) folder r)
    (prompt : Prompt) (outcome : Except Failure Answer) :
    Confined r w (j.save prompt outcome w).2 := by
  unfold save
  rw [output]
  cases recordOf? prompt outcome with
  | none => exact .refl r w
  | some x => exact Artifacts.confined_saveRecord takes x

theorem confined_saveResult (output : j.output = some folder)
    (takes : w.Takes (promptsAt r) folder r) (result : RunResult) :
    Confined r w (j.saveResult result w).2 := by
  unfold saveResult
  simp only [output]
  have first := Artifacts.confined_saveMutants takes result.mutants
  rcases mutants : Artifacts.saveMutants w folder result.mutants with ⟨_ | ⟨⟩, w₁⟩
  · simpa [mutants] using first
  · rw [mutants] at first
    exact first.trans (Artifacts.confined_saveSummary (takes.keeps first.keeps) result.summary)

theorem isTree_save (tree : w.IsTree) (prompt : Prompt) (outcome : Except Failure Answer) :
    (j.save prompt outcome w).2.IsTree := by
  unfold save
  split
  next => exact Artifacts.isTree_writeJson tree _ _
  next => exact tree

theorem isTree_saveResult (tree : w.IsTree) (result : RunResult) :
    (j.saveResult result w).2.IsTree := by
  unfold saveResult
  cases j.output with
  | none => exact tree
  | some folder =>
      have first : (Artifacts.saveMutants w folder result.mutants).2.IsTree :=
        Artifacts.isTree_writeJson tree _ _
      rcases mutants : Artifacts.saveMutants w folder result.mutants with ⟨_ | ⟨⟩, w₁⟩
      · simpa [mutants] using first
      · rw [mutants] at first
        simp only [mutants]
        exact Artifacts.isTree_writeJson first _ _

/-- A run over a model that changes no files is confined, also one that meets a fault. -/
theorem confined_of_generate {files : List SourceFile} {s s' : World × σ}
    {outcome : Except ArtifactFault RunResult} (output : j.output = some folder)
    (quiet : ∀ text options s, (m.query text options s).2.1 = s.1)
    (takes : s.1.Takes (promptsAt r) folder r) (h : j.generate m files s = (outcome, s')) :
    Confined r s.1 s'.1 := by
  have step : ∀ {w w'}, Confined r s.1 w → (w.Takes (promptsAt r) folder r → Confined r w w') →
      Confined r s.1 w' := fun h next => h.trans (next (takes.keeps h.keeps))
  have whole : Confined r s.1 (j.generate m files s).2.1 := by
    refine generate_induction (I := fun s' => Confined r s.1 s'.1) ?_ ?_ ?_ ?_ (.refl r s.1)
    · intro text s' h
      rwa [quiet]
    · exact fun h => step h fun takes => confined_save output takes _ _
    · exact fun h => step h fun takes => confined_clear output takes
    · exact fun h => step h fun takes => confined_saveResult output takes _
  rwa [h] at whole

end Job

end Mutagenesis
