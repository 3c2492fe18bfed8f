import Mutagenesis.Proofs.Files.Routes

/-!
# Trees that grow

A path leads to a folder or to a name in a folder, and there a tree stays a tree when a folder is
made or a file takes a place. So making folders and replacing files keep a tree.
-/
namespace Mutagenesis.Files.World

variable {w w' : World} {follow : Bool} {a b : Address} {e : Entry} {p : Path} {content : Bytes}

/-! ## Places -/

/-- Whether an entry can stand at an address: in a folder, under a name that a path can spell. -/
inductive HasPlace (w : World) : Address → Prop
  | name {name above} (named : isName name = true) (inFolder : w.get? above = some .folder) :
      HasPlace w (name :: above)

theorem HasPlace.ne_nil (h : w.HasPlace a) : a ≠ [] := by
  cases h
  simp

theorem IsTree.get?_above (tree : w.IsTree) (h : w.get? a = some .folder) :
    w.get? a.tail = some .folder := by
  cases a with
  | nil => rfl
  | cons name above =>
      have found : w.get? (name :: above) ≠ none := by simp [h]
      exact tree.get?_tail found

section Walk

variable {onLink : Address → Path → List Bytes → Except Fault Address} {at' : Address}
  {ps : List Bytes}

/-- A walk from a folder ends at a folder or at a name in one, if going on along links does. -/
theorem IsTree.hasPlace_of_walk (tree : w.IsTree)
    (links : ∀ {at' target rest}, w.get? at' = some .folder → (∀ piece ∈ rest, slash ∉ piece) →
      onLink at' target rest = .ok a → w.HasPlace a)
    (noSlash : ∀ piece ∈ ps, slash ∉ piece) (here : w.get? at' = some .folder)
    (h : w.walk follow onLink at' ps = .ok a) (noFolder : w.get? a ≠ some .folder) :
    w.HasPlace a := by
  induction ps generalizing at' with
  | nil =>
      obtain rfl := Except.ok.inj h
      exact absurd here noFolder
  | cons piece rest ih =>
      rw [List.forall_mem_cons] at noSlash
      have goesOn : ∀ {at'}, w.get? at' = some .folder →
          w.walk follow onLink at' rest = .ok a → w.HasPlace a := ih noSlash.2
      rw [walk] at h
      split at h
      next => exact goesOn here h
      next idle =>
        split at h
        next => exact goesOn (tree.get?_above here) h
        next up =>
          -- the walk goes on from the piece, or the piece is what it leads to
          have place : w.HasPlace (piece :: at') :=
            .name (isName_iff.2 ⟨⟨by simpa using idle, by simpa using up⟩, noSlash.1⟩) here
          have arrives : ∀ {b : Address}, Except.ok b = (Except.ok a : Except Fault Address) →
              b = piece :: at' → w.HasPlace a := by
            rintro b same rfl
            exact Except.ok.inj same ▸ place
          split at h
          next => simp at h
          next =>
            split at h
            next =>
              split at h
              next => exact arrives h rfl
              next => simp at h
            next found => exact goesOn found h
            next =>
              split at h
              next => exact arrives h rfl
              next => simp at h
            next =>
              split at h
              next => exact arrives h rfl
              next => exact links here noSlash.2 h

theorem get?_start (here : w.get? at' = some .folder) (p : Path) :
    w.get? (start at' p) = some .folder := by
  rw [start]
  split
  · rfl
  · exact here

theorem IsTree.hasPlace_of_throughLink (tree : w.IsTree) (n : Nat)
    (noFolder : w.get? a ≠ some .folder) {target : Path} {rest : List Bytes}
    (here : w.get? at' = some .folder) (noSlash : ∀ piece ∈ rest, slash ∉ piece)
    (h : w.throughLink follow n at' target rest = .ok a) : w.HasPlace a := by
  induction n generalizing at' target rest with
  | zero => simp [throughLink] at h
  | succ n ih =>
      refine tree.hasPlace_of_walk ih ?_ (get?_start here target) h noFolder
      intro piece hpiece
      obtain hpiece | hpiece := List.mem_append.1 hpiece
      · exact slash_notMem_of_mem_pieces hpiece
      · exact noSlash piece hpiece

end Walk

/-- A path leads to a folder or to a place for an entry. -/
theorem IsTree.hasPlace_of_locate (tree : w.IsTree) (h : w.locate follow p = .ok a)
    (noFolder : w.get? a ≠ some .folder) : w.HasPlace a := by
  unfold locate at h
  split at h
  next => simp at h
  next =>
    split at h
    next => simp at h
    next =>
      split at h
      next => simp at h
      next =>
        exact tree.hasPlace_of_walk (tree.hasPlace_of_throughLink linkLimit noFolder)
          (fun _ => slash_notMem_of_mem_pieces) (get?_start tree.home p) h noFolder

/-- Above a folder of a tree there are folders alone. -/
theorem IsTree.get?_of_append (tree : w.IsTree) (h : w.get? (b ++ a) = some .folder) :
    w.get? a = some .folder := by
  induction b with
  | nil => exact h
  | cons name b ih => exact ih (tree.get?_above h)

/-- Short names lead to a folder of a tree. -/
theorem IsTree.passes (tree : w.IsTree) {names : List Bytes}
    (h : w.get? (names.reverse ++ a) = some .folder)
    (short : ∀ name ∈ names, name.length ≤ nameLimit) : w.Passes a names := by
  induction names generalizing a with
  | nil => trivial
  | cons name rest ih =>
      rw [List.forall_mem_cons] at short
      rw [List.reverse_cons, List.append_assoc, List.singleton_append] at h
      exact ⟨short.1, tree.get?_of_append h, ih h short.2⟩

/-! ## Entries in their places -/

/-- A folder is still one when an entry is put that does not replace it. -/
theorem get?_put_folder (nonempty : a ≠ []) (kept : w.get? a = some .folder → e = .folder)
    (h : w.get? b = some .folder) : (w.put a e).get? b = some .folder := by
  rw [get?_put w e b nonempty]
  split
  next same => rw [kept (same ▸ h)]
  next => exact h

/-- The names of a folder's address are names that paths can spell. -/
theorem IsTree.named_of_get? (tree : w.IsTree) (h : w.get? a ≠ none) :
    ∀ name ∈ a, isName name = true := by
  cases a with
  | nil => simp
  | cons name above =>
      obtain ⟨x, hx, hxa⟩ := (exists_entry_iff (List.cons_ne_nil name above)).2 h
      exact hxa ▸ tree.named x hx

/-- A tree stays one when an entry is put in its place and no folder gives way to it. -/
theorem IsTree.put (tree : w.IsTree) (place : w.HasPlace a)
    (kept : w.get? a = some .folder → e = .folder) : (w.put a e).IsTree := by
  have nonempty := place.ne_nil
  have folders : ∀ {b}, w.get? b = some .folder → (w.put a e).get? b = some .folder :=
    get?_put_folder nonempty kept
  have others : ∀ {x}, x ∈ w.entries.filter (fun x => x.1 ≠ a) → x ∈ w.entries :=
    fun h => (List.mem_filter.1 h).1
  cases place with
  | @name name above named inFolder =>
      refine ⟨?_, ?_, ?_, ?_, folders tree.home⟩
      · rw [put, List.map_cons, List.nodup_cons]
        refine ⟨?_, tree.distinct.sublist (List.filter_sublist.map _)⟩
        simp [List.mem_map, List.mem_filter]
      · exact List.forall_mem_cons.2 ⟨nonempty, fun x hx => tree.rooted x (others hx)⟩
      · refine List.forall_mem_cons.2 ⟨?_, fun x hx => tree.named x (others hx)⟩
        exact List.forall_mem_cons.2 ⟨named, tree.named_of_get? (by simp [inFolder])⟩
      · exact List.forall_mem_cons.2 ⟨folders inFolder,
          fun x hx => folders (tree.inFolder x (others hx))⟩

/-! ## Folders -/

theorem IsTree.makeFolder (tree : w.IsTree) (h : w.makeFolder p = .ok w') : w'.IsTree := by
  obtain ⟨a, located, free, rfl⟩ := makeFolder_eq_ok h
  exact tree.put (tree.hasPlace_of_locate located (by simp [free])) (by simp [free])

theorem IsTree.makeFolders (tree : w.IsTree) (p : Path) : (w.makeFolders p).2.IsTree :=
  makeFirst_induction (fun _ _ tree made => tree.makeFolder made) tree

/-! ## Replaced files -/

/-- The name of a draft is not in use. -/
theorem get?_freshName (w : World) (folder : Address) :
    w.get? (w.freshName folder :: folder) = none := by
  apply Decidable.byContradiction
  intro found
  have short := (List.sublist_flatten_of_mem (mem_names_iff.2 found)).length_le
  have long : (w.freshName folder).length = 4 + (w.names folder).flatten.length := by
    have : (Text.bytes ".tmp").length = 4 := by decide
    rw [freshName, List.length_append, this, List.length_replicate]
  omega

/-- A new entry that is taken away again leaves the world as it was. -/
theorem erase_put_of_free (nonempty : a ≠ []) (free : w.get? a = none) :
    (w.put a e).erase a = w := by
  have absent : ∀ x ∈ w.entries, x.1 ≠ a := by
    intro x hx same
    exact (exists_entry_iff nonempty).1 ⟨x, hx, same⟩ free
  have kept : w.entries.filter (fun x => decide (x.1 ≠ a)) = w.entries :=
    List.filter_eq_self.2 fun x hx => by simpa using absent x hx
  have kept' : w.entries.filter (fun x => !decide (x.1 = a)) = w.entries :=
    List.filter_eq_self.2 fun x hx => by simpa using absent x hx
  simp only [erase, remove, put, kept]
  simp [kept']

/-- What is replaced is no folder, and only its entry changes. -/
theorem replace_eq_ok (h : w.replace p content = (.ok (), w')) :
    ∃ a, w.locate false p = .ok a ∧ w.get? a ≠ some .folder ∧ w' = w.put a (.file content) := by
  unfold replace at h
  split at h
  next => simp at h
  next => simp at h
  next name folder located =>
    refine ⟨name :: folder, located, ?_⟩
    have fresh := get?_freshName w folder
    have undone := erase_put_of_free (e := .file content) (List.cons_ne_nil _ _) fresh
    simp only [undone] at h
    split at h
    next => simp at h
    next noFolder =>
      refine ⟨?_, (Prod.mk.inj h).2.symm⟩
      intro found
      exact noFolder (get?_put_of_free fresh found)

theorem IsTree.replace (tree : w.IsTree) (h : w.replace p content = (.ok (), w')) : w'.IsTree := by
  obtain ⟨a, located, noFolder, rfl⟩ := replace_eq_ok h
  exact tree.put (tree.hasPlace_of_locate located noFolder) fun found => absurd found noFolder

end Mutagenesis.Files.World
