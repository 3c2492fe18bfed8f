import Mutagenesis.Proofs.Files.Tree

/-!
# What changes keep

Most changes of a world keep the folders and links that lead to other entries. The lemmas say this
for each operation that changes one entry or removes a folder, and how the names of a folder change
with it.
-/
namespace Mutagenesis.Files.World

variable {w w' : World} {avoided a b folder : Address} {name : Bytes} {e : Entry}

/-- Whether the folders and links of a world, other than those at or below an address, are still
there in another world, which has no further links. -/
structure Keeps (avoided : Address) (w w' : World) : Prop where
  home : w'.home = w.home
  folders : ∀ b, ¬ avoided <:+ b → w.get? b = some .folder → w'.get? b = some .folder
  linked : ∀ b target, ¬ avoided <:+ b → w.get? b = some (.link target) →
    w'.get? b = some (.link target)
  noLink : ∀ b target, w'.get? b = some (.link target) → w.get? b = some (.link target)

theorem Keeps.refl (avoided : Address) (w : World) : Keeps avoided w w :=
  ⟨rfl, fun _ _ found => found, fun _ _ _ found => found, fun _ _ found => found⟩

theorem Keeps.trans {w'' : World} (h : Keeps avoided w w') (h' : Keeps avoided w' w'') :
    Keeps avoided w w'' :=
  ⟨h'.home.trans h.home, fun b free found => h'.folders b free (h.folders b free found),
    fun b target free found => h'.linked b target free (h.linked b target free found),
    fun b target found => h.noLink b target (h'.noLink b target found)⟩

@[simp] theorem get?_nil (w : World) : w.get? [] = some .folder := rfl

theorem ne_nil_of_get? (h : w.get? a ≠ some .folder) : a ≠ [] := by
  rintro rfl
  exact h rfl

/-- Whether no entry of a world is a link. -/
def hasNoLinks (w : World) : Bool := w.entries.all fun x => x.2 matches .file _ | .folder

theorem get?_ne_link (noLinks : w.hasNoLinks = true) (a : Address) (target : Path) :
    w.get? a ≠ some (.link target) := by
  intro found
  have nonempty := ne_nil_of_get? (show w.get? a ≠ some .folder by simp [found])
  simp only [get?, nonempty, if_false] at found
  obtain ⟨before, after, split, -⟩ := List.lookup_eq_some_iff.1 found
  have := List.all_eq_true.1 noLinks (a, .link target) (by simp [split])
  simp at this

/-- Putting an entry where there is none leaves the others. -/
theorem get?_put_of_free {e' : Entry} (free : w.get? a = none) (found : w.get? b = some e) :
    (w.put a e').get? b = some e := by
  have other : b ≠ a := by
    rintro rfl
    simp [free] at found
  have noFolder : w.get? a ≠ some .folder := by simp [free]
  rw [get?_put w e' b (ne_nil_of_get? noFolder), if_neg other, found]

/-- Putting an entry that is no link, where there is neither a folder nor a link, keeps those. -/
theorem keeps_put (noFolder : w.get? a ≠ some .folder)
    (noLink : ∀ target, w.get? a ≠ some (.link target)) (he : ∀ target, e ≠ .link target) :
    Keeps avoided w (w.put a e) := by
  have nonempty := ne_nil_of_get? noFolder
  have other : ∀ b, b ≠ a → (w.put a e).get? b = w.get? b := by
    intro b hb
    rw [get?_put w e b nonempty, if_neg hb]
  refine ⟨rfl, ?_, ?_, ?_⟩
  · intro b _ found
    rw [other b (by rintro rfl; exact noFolder found), found]
  · intro b target _ found
    rw [other b (by rintro rfl; exact noLink target found), found]
  · intro b target found
    by_cases hb : b = a
    · rw [get?_put w e b nonempty, if_pos hb] at found
      exact absurd (Option.some.inj found) (he target)
    · rwa [other b hb] at found

theorem get?_remove_eq_some {gone : Address → Bool} (h : (w.remove gone).get? b = some e) :
    w.get? b = some e := by
  rw [get?_remove] at h
  split at h
  next => simp at h
  next => exact h

/-- Removing what is neither a folder nor a link, or stands at or below the address, keeps the
others. -/
theorem keeps_remove {gone : Address → Bool}
    (h : ∀ b, b ≠ [] → gone b = true → avoided <:+ b ∨
      w.get? b ≠ some .folder ∧ ∀ target, w.get? b ≠ some (.link target)) :
    Keeps avoided w (w.remove gone) := by
  have other : ∀ b e, ¬ avoided <:+ b → w.get? b = some e →
      (e = .folder ∨ ∃ target, e = .link target) → (w.remove gone).get? b = some e := by
    intro b e hb found kind
    rw [get?_remove, if_neg, found]
    rintro ⟨nonempty, hgone⟩
    obtain inside | ⟨noFolder, noLink⟩ := h b nonempty hgone
    · exact hb inside
    · obtain rfl | ⟨target, rfl⟩ := kind
      · exact noFolder found
      · exact noLink target found
  exact ⟨rfl, fun _ hb found => other _ _ hb found (.inl rfl),
    fun _ target hb found => other _ _ hb found (.inr ⟨target, rfl⟩),
    fun _ _ found => get?_remove_eq_some found⟩

theorem keeps_erase (noFolder : w.get? a ≠ some .folder)
    (noLink : ∀ target, w.get? a ≠ some (.link target)) : Keeps avoided w (w.erase a) := by
  refine keeps_remove fun b _ hb => .inr ?_
  obtain rfl : b = a := by simpa using hb
  exact ⟨noFolder, noLink⟩

theorem keeps_eraseTree (w : World) (a : Address) : Keeps a w (w.eraseTree a) :=
  keeps_remove fun _ _ hb => .inl (List.isSuffixOf_iff_suffix.1 hb)

/-! ## Names -/

theorem mem_names : name ∈ w.names folder ↔ ∃ x ∈ w.entries, x.1 = name :: folder := by
  simp only [names, List.mem_filterMap]
  refine exists_congr fun x => and_congr_right fun _ => ?_
  cases h : x.1 with
  | nil => simp [nameIn?]
  | cons n above => simp [nameIn?, and_comm]

theorem exists_entry_iff (ha : a ≠ []) : (∃ x ∈ w.entries, x.1 = a) ↔ w.get? a ≠ none := by
  simp only [get?, ha, if_false]
  induction w.entries with
  | nil => simp
  | cons x entries ih =>
      obtain ⟨c, e⟩ := x
      by_cases same : a = c
      · simp [same]
      · have differ : (a == c) = false := by simpa using same
        simp [List.lookup_cons, differ, ← ih, Ne.symm same]

theorem mem_names_iff : name ∈ w.names folder ↔ w.get? (name :: folder) ≠ none := by
  rw [mem_names, exists_entry_iff (List.cons_ne_nil name folder)]

theorem nameIn?_eq_none (h : ∀ n, a ≠ n :: folder) : nameIn? folder a = none := by
  cases a with
  | nil => rfl
  | cons n above =>
      have differ : above ≠ folder := by
        rintro rfl
        exact h n rfl
      simp [nameIn?, differ]

theorem names_put_of_ne (h : ∀ n, a ≠ n :: folder) : (w.put a e).names folder = w.names folder := by
  have noName := nameIn?_eq_none h
  simp only [names, put, List.filterMap_cons, noName, List.filterMap_filter]
  congr 1
  funext x
  by_cases same : x.1 = a
  · simp [same, noName]
  · simp [same]

/-- A new entry comes first among the names of its folder. -/
theorem names_put_of_free (free : w.get? (name :: folder) = none) :
    (w.put (name :: folder) e).names folder = name :: w.names folder := by
  have absent : ∀ x ∈ w.entries, x.1 ≠ name :: folder := by
    intro x hx same
    exact (exists_entry_iff (List.cons_ne_nil name folder)).1 ⟨x, hx, same⟩ free
  have kept : w.entries.filter (fun x => decide (x.1 ≠ name :: folder)) = w.entries :=
    List.filter_eq_self.2 fun x hx => by simpa using absent x hx
  rw [names, put, kept]
  simp [names, nameIn?]

theorem names_eq_nil (h : ∀ name, w.get? (name :: folder) = none) : w.names folder = [] := by
  rw [List.eq_nil_iff_forall_not_mem]
  intro name hname
  exact mem_names_iff.1 hname (h name)

/-! ## Trees -/

/-- Whether all that stands at or below an address has something at each address above it. This is
less than being a tree, and it outlasts the home. -/
def IsSupported (w : World) (a : Address) : Prop :=
  ∀ above, above <:+ a → w.get? above = none → ∀ b, w.get? (b ++ a) = none

namespace IsTree

theorem get?_tail (tree : w.IsTree) (h : w.get? (name :: a) ≠ none) : w.get? a = some .folder := by
  obtain ⟨x, hx, hxa⟩ := (exists_entry_iff (List.cons_ne_nil name a)).2 h
  simpa [hxa] using tree.inFolder x hx

/-- Nothing stands below an address at which there is nothing. -/
theorem get?_append_eq_none (tree : w.IsTree) (h : w.get? a = none) (b : Address) :
    w.get? (b ++ a) = none := by
  induction b with
  | nil => exact h
  | cons name b ih =>
      apply Decidable.byContradiction
      intro found
      have := tree.get?_tail (by simpa using found)
      simp [ih] at this

theorem isSupported (tree : w.IsTree) (a : Address) : w.IsSupported a := by
  rintro above ⟨between, rfl⟩ free b
  rw [← List.append_assoc]
  exact tree.get?_append_eq_none free _

/-- The names in a folder of a tree are different from each other. -/
theorem nodup_names (tree : w.IsTree) (folder : Address) : (w.names folder).Nodup := by
  have names : w.names folder = (w.entries.map (·.1)).filterMap (nameIn? folder) := by
    rw [List.filterMap_map]
    rfl
  have address : ∀ {a name}, nameIn? folder a = some name → a = name :: folder := by
    intro a name found
    cases a with
    | nil => simp [nameIn?] at found
    | cons n above =>
        simp only [nameIn?, Option.ite_none_right_eq_some, Option.some.injEq] at found
        rw [found.1, found.2]
  rw [names]
  refine List.Pairwise.filterMap _ (fun a b differ name ha name' hb same => differ ?_) tree.distinct
  rw [address ha, address hb, same]

end IsTree

/-! ## Orders of entries -/

/-- Whether two worlds differ in nothing but the order in which their entries are listed. -/
structure Relists (w w' : World) : Prop where
  home : w'.home = w.home
  entries : w'.entries.Perm w.entries

/-- Where addresses have one entry each, it is no matter in which order they are listed. -/
theorem get?_eq_some_iff (distinct : (w.entries.map (·.1)).Nodup) (nonempty : a ≠ []) :
    w.get? a = some e ↔ (a, e) ∈ w.entries := by
  rw [get?, if_neg nonempty, List.lookup_eq_some_iff]
  constructor
  · rintro ⟨before, after, split, -⟩
    simp [split]
  · intro listed
    obtain ⟨before, after, split⟩ := List.append_of_mem listed
    refine ⟨before, after, split, fun x hx => ?_⟩
    rw [split, List.map_append, List.map_cons, List.nodup_append] at distinct
    simpa using (distinct.2.2 x.1 (List.mem_map_of_mem hx) a List.mem_cons_self).symm

namespace Relists

theorem distinct (h : Relists w w') (tree : w.IsTree) : (w'.entries.map (·.1)).Nodup :=
  (h.entries.map _).nodup_iff.2 tree.distinct

theorem get?_eq (h : Relists w w') (tree : w.IsTree) (a : Address) : w'.get? a = w.get? a := by
  by_cases root : a = []
  · rw [root, get?_nil, get?_nil]
  · refine Option.ext fun e => ?_
    rw [get?_eq_some_iff (h.distinct tree) root, get?_eq_some_iff tree.distinct root,
      h.entries.mem_iff]

theorem isTree (h : Relists w w') (tree : w.IsTree) : w'.IsTree := by
  refine ⟨h.distinct tree, fun x hx => tree.rooted x (h.entries.mem_iff.1 hx),
    fun x hx => tree.named x (h.entries.mem_iff.1 hx), fun x hx => ?_, ?_⟩
  · rw [h.get?_eq tree]
    exact tree.inFolder x (h.entries.mem_iff.1 hx)
  · rw [h.get?_eq tree, h.home]
    exact tree.home

end Relists

end Mutagenesis.Files.World
