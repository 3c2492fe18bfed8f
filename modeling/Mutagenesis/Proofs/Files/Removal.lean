import Mutagenesis.Proofs.Files.Growth

/-!
# Trees that shrink

A tree stays a tree when what lies below an entry goes with it and its home stays. Files have
nothing below them, so removing a file keeps a tree, and so does removing a folder with all that
lies below it, unless it is the home or lies above it.
-/
namespace Mutagenesis.Files.World

variable {w w' : World} {a folder : Address} {gone : Address → Bool} {p : Path}

/-- The names of a folder stay when none of its entries goes. -/
theorem names_remove (h : ∀ name, gone (name :: folder) = false) :
    (w.remove gone).names folder = w.names folder := by
  simp only [names, remove, List.filterMap_filter]
  congr 1
  funext x
  cases x.1 with
  | nil => simp [nameIn?]
  | cons name above =>
      by_cases same : above = folder
      · subst same
        simp [h]
      · simp [nameIn?, same]

namespace IsTree

/-- What lies below an entry goes with it. -/
theorem remove (tree : w.IsTree)
    (below : ∀ name above, w.get? (name :: above) ≠ none → gone above = true →
      gone (name :: above) = true)
    (home : gone w.home = false) : (w.remove gone).IsTree := by
  have left : ∀ {x}, x ∈ (w.remove gone).entries → x ∈ w.entries ∧ gone x.1 = false := by
    intro x hx
    simpa using List.mem_filter.1 hx
  refine ⟨tree.distinct.sublist (List.filter_sublist.map _), fun x hx => tree.rooted x (left hx).1,
    fun x hx => tree.named x (left hx).1, fun x hx => ?_, ?_⟩
  · obtain ⟨hin, stays⟩ := left hx
    have there := tree.inFolder x hin
    cases address : x.1 with
    | nil => rfl
    | cons name above =>
        rw [address] at stays there
        have found : w.get? (name :: above) ≠ none :=
          (exists_entry_iff (List.cons_ne_nil name above)).1 ⟨x, hin, address⟩
        have aboveStays : ¬ (above ≠ [] ∧ gone above = true) := by
          rintro ⟨-, aboveGone⟩
          simp [below name above found aboveGone] at stays
        rw [List.tail_cons, get?_remove, if_neg aboveStays]
        exact there
  · rw [home_remove, get?_remove, if_neg (by simp [home]), tree.home]

/-- Nothing lies below a file or a link. -/
theorem erase (tree : w.IsTree) (noFolder : w.get? a ≠ some .folder) : (w.erase a).IsTree := by
  refine tree.remove (fun name above found same => ?_) ?_
  · obtain rfl : above = a := by simpa using same
    exact absurd (tree.get?_tail found) noFolder
  · have other : w.home ≠ a := by
      intro same
      exact noFolder (same ▸ tree.home)
    simp [other]

theorem eraseTree (tree : w.IsTree) (home : ¬ a <:+ w.home) : (w.eraseTree a).IsTree := by
  refine tree.remove (fun name above _ within => ?_) ?_
  · exact List.isSuffixOf_iff_suffix.2
      ((List.isSuffixOf_iff_suffix.1 within).trans (List.suffix_cons name above))
  · cases within : isWithin a w.home with
    | true => exact absurd (List.isSuffixOf_iff_suffix.1 within) home
    | false => rfl

theorem removeFile (tree : w.IsTree) (h : w.removeFile p = .ok w') : w'.IsTree := by
  obtain ⟨a, -, noFolder, rfl⟩ := removeFile_eq_ok h
  exact tree.erase noFolder

theorem write (tree : w.IsTree) {content : Bytes} (h : w.write p content = .ok w') :
    w'.IsTree := by
  obtain ⟨a, located, noFolder, rfl⟩ := write_eq_ok h
  exact tree.put (tree.hasPlace_of_locate located noFolder) fun found => absurd found noFolder

end IsTree

end Mutagenesis.Files.World
