import Mutagenesis.Files.Access
import Mutagenesis.Proofs.Files.Path

/-!
# Worlds that are trees

A table of entries is a tree of files when each address has one entry, which stands in a folder
under a name that a path can spell.
-/
namespace Mutagenesis.Files

/-- Whether a piece is a name that an entry can have. -/
def isName (piece : Bytes) : Bool := !isIdle piece && !isUp piece && !piece.contains slash

theorem isName_iff {piece : Bytes} :
    isName piece = true ↔ (isIdle piece = false ∧ isUp piece = false) ∧ slash ∉ piece := by
  simp [isName]

theorem isIdle_of_isUp {piece : Bytes} (h : isUp piece = true) : isIdle piece = false := by
  obtain rfl : piece = [dot, dot] := by simpa [isUp] using h
  rfl

theorem isIdle_of_isName {name : Bytes} (h : isName name = true) : isIdle name = false :=
  (isName_iff.1 h).1.1

theorem isUp_of_isName {name : Bytes} (h : isName name = true) : isUp name = false :=
  (isName_iff.1 h).1.2

theorem slash_notMem_of_isName {name : Bytes} (h : isName name = true) : slash ∉ name :=
  (isName_iff.1 h).2

theorem ne_nil_of_isName {name : Bytes} (h : isName name = true) : name ≠ [] := by
  rintro rfl
  simp [isName, isIdle] at h

namespace World

/-- What the entries of every file system keep to. -/
structure IsTree (w : World) : Prop where
  distinct : (w.entries.map (·.1)).Nodup
  rooted : ∀ x ∈ w.entries, x.1 ≠ []
  named : ∀ x ∈ w.entries, ∀ name ∈ x.1, isName name = true
  inFolder : ∀ x ∈ w.entries, w.get? x.1.tail = some .folder
  home : w.get? w.home = some .folder

instance (w : World) : Decidable w.IsTree :=
  decidable_of_iff ((w.entries.map (·.1)).Nodup ∧ (∀ x ∈ w.entries, x.1 ≠ []) ∧
      (∀ x ∈ w.entries, ∀ name ∈ x.1, isName name = true) ∧
      (∀ x ∈ w.entries, w.get? x.1.tail = some .folder) ∧ w.get? w.home = some .folder)
    ⟨fun ⟨distinct, rooted, named, inFolder, home⟩ => ⟨distinct, rooted, named, inFolder, home⟩,
      fun h => ⟨h.distinct, h.rooted, h.named, h.inFolder, h.home⟩⟩

end World

/-- Names that a path joins can be told from the path. -/
theorem joined_injective {ps qs : List Bytes} (hp : ∀ p ∈ ps, isName p = true)
    (hq : ∀ q ∈ qs, isName q = true) (h : joined ps = joined qs) : ps = qs := by
  have ne_nil : ∀ {names : List Bytes}, (∀ p ∈ names, isName p = true) → names ≠ [] →
      joined names ≠ [] := by
    intro names hnames hne
    obtain ⟨name, more, rfl⟩ := List.exists_cons_of_ne_nil hne
    have := ne_nil_of_isName (hnames name List.mem_cons_self)
    cases more <;> simp [joined, this]
  by_cases hps : ps = []
  · subst hps
    exact (Decidable.byContradiction fun hqs => ne_nil hq (Ne.symm hqs) h.symm)
  · have hqs : qs ≠ [] := by
      rintro rfl
      exact ne_nil hp hps h
    rw [← pieces_joined hps fun p hmem => slash_notMem_of_isName (hp p hmem), h,
      pieces_joined hqs fun q hmem => slash_notMem_of_isName (hq q hmem)]

end Mutagenesis.Files
