import Mathlib.Data.List.Nodup
import Mutagenesis.Package.Select
import Mutagenesis.Proofs.Discovery
import Mutagenesis.Proofs.Files.Tree
import Mutagenesis.Proofs.Results
import Mutagenesis.Proofs.Text

/-!
# The files of a package

No file of a package is listed twice, and each comes with the specifications that discovery finds
in it.
-/
namespace Mutagenesis.Package

open Files (Address World)

variable {w : World} {top : Address} {root : Path} {c : Config}

theorem eq_append_of_namesFrom? {a : Address} {names : List Bytes}
    (h : namesFrom? top a = some names) : a = names.reverse ++ top := by
  simp only [namesFrom?, Option.ite_none_right_eq_some, Option.some.injEq] at h
  obtain ⟨within, rfl⟩ := h
  obtain ⟨below, rfl⟩ : top <:+ a := by simpa [World.isWithin] using within
  simp

theorem namesFrom?_of_fileBelow? {x : Address × Files.Entry} {names : List Bytes}
    (h : fileBelow? top x = some names) : namesFrom? top x.1 = some names := by
  unfold fileBelow? at h
  split at h
  next => exact (Option.filter_eq_some_iff.1 h).1
  next => simp at h

theorem isName_of_mem_filesBelow (tree : w.IsTree) {names : List Bytes}
    (h : names ∈ filesBelow w top) : ∀ name ∈ names, Files.isName name = true := by
  have hmem := (List.mergeSort_perm ..).mem_iff.1 h
  obtain ⟨x, hx, hbelow⟩ := List.mem_filterMap.1 hmem
  have haddress := eq_append_of_namesFrom? (namesFrom?_of_fileBelow? hbelow)
  intro name hname
  exact tree.named x hx name (by simp [haddress, hname])

/-- Each file below a folder is listed once. -/
theorem nodup_filesBelow (top : Address) (tree : w.IsTree) : (filesBelow w top).Nodup := by
  refine (List.mergeSort_perm ..).nodup_iff.2 ?_
  rw [List.Nodup, List.pairwise_filterMap]
  refine (List.pairwise_map.1 tree.distinct).imp ?_
  rintro x y differ names hx names' hy rfl
  apply differ
  rw [eq_append_of_namesFrom? (namesFrom?_of_fileBelow? hx),
    eq_append_of_namesFrom? (namesFrom?_of_fileBelow? hy)]

theorem nodup_selectFiles (tree : w.IsTree) {paths : List Path}
    (h : selectFiles w root c = .ok paths) : paths.Nodup := by
  simp only [selectFiles, bind, Except.bind] at h
  split at h
  next => simp at h
  next mutate _ =>
    split at h
    next => simp at h
    next ignore _ =>
      split at h
      next => simp at h
      next top _ =>
        obtain rfl := Except.ok.inj h
        refine List.Nodup.filter _ ?_
        rw [List.Nodup, List.pairwise_map]
        refine (nodup_filesBelow top tree).imp_of_mem ?_
        intro names names' hnames hnames' differ same
        refine differ (Files.joined_injective (isName_of_mem_filesBelow tree hnames)
          (isName_of_mem_filesBelow tree hnames') ?_)
        simpa using same

theorem readSource?_eq_ok {p : Path} {file : SourceFile}
    (h : readSource? w root c p = .ok (some file)) :
    p.text? = some file.path ∧
      file.specs = discover file.path file.text file.language c.maxLinesInPlaceholder := by
  unfold readSource? at h
  split at h
  next language name _ hname =>
    split at h
    next text _ =>
      obtain rfl := Option.some.inj (Except.ok.inj h)
      exact ⟨hname, rfl⟩
    next => simp at h
  next => simp at h

/-- The paths of the files that were read stand among those that were to be read. -/
theorem sublist_of_forall₂ {paths : List Path} {files : List (Option SourceFile)}
    (h : List.Forall₂ (fun p file => readSource? w root c p = .ok file) paths files) :
    ((files.filterMap id).map fun file => Text.bytes file.path).Sublist (paths.map (·.bytes)) := by
  induction h with
  | nil => exact List.Sublist.slnil
  | @cons p file paths files read _ ih =>
      cases file with
      | none => exact ih.cons p.bytes
      | some file =>
          have hp := Text.bytes_of_ofBytes? (readSource?_eq_ok read).1
          simp only [List.filterMap_cons, id, List.map_cons, hp]
          exact ih.cons_cons p.bytes

/-- The files of a package have paths of their own and the specifications that discovery finds. -/
theorem load_eq_ok (tree : w.IsTree) {files : List SourceFile} (h : load w root c = .ok files) :
    (files.map (·.path)).Nodup ∧ ∀ file ∈ files,
      file.specs = discover file.path file.text file.language c.maxLinesInPlaceholder := by
  simp only [load, bind, Except.bind] at h
  split at h
  next => simp at h
  next paths selected =>
    split at h
    next => simp at h
    next read hread =>
      obtain rfl := Except.ok.inj h
      have each := mapM_eq_ok.1 hread
      constructor
      · have paths_nodup : (paths.map (·.bytes)).Nodup := by
          refine (nodup_selectFiles tree selected).map ?_
          rintro ⟨p⟩ ⟨q⟩ rfl
          rfl
        have bytes_nodup := (sublist_of_forall₂ each).nodup paths_nodup
        rw [← Function.comp_def Text.bytes, ← List.map_map] at bytes_nodup
        exact bytes_nodup.of_map _
      · intro file hfile
        obtain ⟨some_file, hread, heq⟩ := List.mem_filterMap.1 hfile
        obtain rfl : some_file = some file := heq
        obtain ⟨p, -, hp⟩ := exists_of_forall₂ each hread
        exact (readSource?_eq_ok hp).2

end Mutagenesis.Package
