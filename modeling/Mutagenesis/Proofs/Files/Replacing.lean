import Mutagenesis.Proofs.Files.Removal

/-!
# Files that are replaced

Replacing a file changes what stands where its path leads, and when it fails nothing changes. The
path leads there afterwards too, unless it passed through a link in that place, which is gone.
`SparesAllBut` says of two worlds that nothing else has changed.
-/
namespace Mutagenesis.Files.World

variable {w w' : World} {a at' : Address} {p : Path} {content : Bytes} {fault : Fault}

/-- When a file cannot be replaced, the draft is taken away again. -/
theorem eq_of_replace_error (h : w.replace p content = (.error fault, w')) : w' = w := by
  unfold replace at h
  split at h
  next => exact (Prod.mk.inj h).2.symm
  next => exact (Prod.mk.inj h).2.symm
  next name folder located =>
    have undone := erase_put_of_free (e := .file content) (List.cons_ne_nil _ _)
      (get?_freshName w folder)
    simp only [undone] at h
    split at h
    next => exact (Prod.mk.inj h).2.symm
    next => simp at h

/-! ## Paths to what has been replaced -/

/-- Whether two worlds differ by the file at an address, where the first one may have none. -/
structure Fills (a : Address) (w w' : World) : Prop where
  other : ∀ b, b ≠ a → w'.get? b = w.get? b
  noFolder : w.get? a ≠ some .folder
  noLink : ∀ target, w.get? a ≠ some (.link target)
  file : ∃ content, w'.get? a = some (.file content)
  home : w'.home = w.home

section Walk

variable {onLink onLink' : Address → Path → List Bytes → Except Fault Address} {ps : List Bytes}

/-- A walk that leads to the place of the file leads to the file. -/
theorem Fills.walk (fills : Fills a w w') (tree : w.IsTree)
    (links : ∀ {at' target rest}, w.get? at' = some .folder → isFirm rest = true →
      onLink at' target rest = .ok a → onLink' at' target rest = .ok a)
    (firm : ps = [] ∨ isFirm ps = true) (here : w.get? at' = some .folder)
    (h : w.walk false onLink at' ps = .ok a) : w'.walk true onLink' at' ps = .ok a := by
  induction ps generalizing at' with
  | nil =>
      obtain rfl := Except.ok.inj h
      exact absurd here fills.noFolder
  | cons piece rest ih =>
      have later := isFirm_of_cons (firm.resolve_left (List.cons_ne_nil piece rest))
      rw [World.walk] at h ⊢
      split at h
      next idle =>
        rw [if_pos idle]
        exact ih later here h
      next idle =>
        rw [if_neg idle]
        split at h
        next up =>
          rw [if_pos up]
          exact ih later (tree.get?_above here) h
        next up =>
          rw [if_neg up]
          split at h
          next => simp at h
          next short =>
            rw [if_neg short]
            -- the file is at the end of the path, and before it nothing has changed
            by_cases same : piece :: at' = a
            · obtain ⟨content, file⟩ := fills.file
              obtain rfl | later := later
              · simp [same, file]
              · have more := ne_nil_of_isFirm later
                rw [same] at h
                cases found : w.get? a with
                | none => simp [found, all_isEmpty_eq_false later] at h
                | some e =>
                    cases e with
                    | folder => exact absurd found fills.noFolder
                    | file => simp [found, more] at h
                    | link target => exact absurd found (fills.noLink target)
            · rw [fills.other _ same]
              cases found : w.get? (piece :: at') with
              | none =>
                  simp only [found] at h ⊢
                  exact h
              | some e =>
                  simp only [found] at h
                  cases e with
                  | folder => exact ih later found h
                  | file => exact h
                  | link target =>
                      obtain rfl | later := later
                      · exact absurd (Except.ok.inj h) same
                      · have more : rest.isEmpty = false := by simp [ne_nil_of_isFirm later]
                        simp only [more, Bool.false_and, Bool.false_eq_true, if_false] at h ⊢
                        exact links here later h

theorem Fills.throughLink (fills : Fills a w w') (tree : w.IsTree) (n : Nat) {target : Path}
    {rest : List Bytes} (here : w.get? at' = some .folder) (firm : isFirm rest = true)
    (h : w.throughLink false n at' target rest = .ok a) :
    w'.throughLink true n at' target rest = .ok a := by
  induction n generalizing at' target rest with
  | zero => simp [World.throughLink] at h
  | succ n ih =>
      refine fills.walk tree ih (.inr ?_) (get?_start here target) h
      rw [isFirm_append _ (ne_nil_of_isFirm firm), firm]

end Walk

/-- A path that leads to the place of the file leads to the file. -/
theorem Fills.locate (fills : Fills a w w') (tree : w.IsTree)
    (firm : isFirm (pieces p.bytes) = true) (h : w.locate false p = .ok a) :
    w'.locate true p = .ok a := by
  unfold World.locate at h ⊢
  split at h
  next => simp at h
  next noZero =>
    split at h
    next => simp at h
    next some_byte =>
      split at h
      next => simp at h
      next short =>
        rw [if_neg noZero, if_neg some_byte, if_neg short, fills.home]
        exact fills.walk tree (fills.throughLink tree linkLimit) (.inr firm)
          (get?_start tree.home p) h

/-- Whether a path leads to an address without passing through a link that stands there itself. -/
def LeadsPast (w : World) (p : Path) (a : Address) : Prop :=
  ∀ target, w.get? a = some (.link target) → (w.erase a).locate false p = .ok a

/-- What has been put where a path leads is read by this path. -/
theorem read_of_put (tree : w.IsTree) (firm : isFirm (pieces p.bytes) = true)
    (located : w.locate false p = .ok a) (noFolder : w.get? a ≠ some .folder)
    (past : w.LeadsPast p a) : (w.put a (.file content)).read p = .ok content := by
  have nonempty := ne_nil_of_get? noFolder
  have file : (w.put a (.file content)).get? a = some (.file content) := by
    rw [get?_put _ _ _ nonempty, if_pos rfl]
  have leads : (w.put a (.file content)).locate true p = .ok a := by
    by_cases link : ∃ target, w.get? a = some (.link target)
    · -- the link is gone before the file takes its place
      obtain ⟨target, link⟩ := link
      have gone : (w.erase a).get? a = none := by
        rw [erase, get?_remove, if_pos ⟨nonempty, by simp⟩]
      have fills : Fills a (w.erase a) (w.put a (.file content)) := by
        refine ⟨fun b other => ?_, by simp [gone], by simp [gone], ⟨content, file⟩, rfl⟩
        rw [get?_put _ _ _ nonempty, if_neg other, erase, get?_remove, if_neg (by simp [other])]
      exact fills.locate (tree.erase noFolder) firm (past target link)
    · have fills : Fills a w (w.put a (.file content)) := by
        refine ⟨fun b other => ?_, noFolder, fun target found => link ⟨target, found⟩,
          ⟨content, file⟩, rfl⟩
        rw [get?_put _ _ _ nonempty, if_neg other]
      exact fills.locate tree firm located
  simp [World.read, leads, file, bind, Except.bind, pure, Except.pure]

/-! ## What is spared -/

/-- Whether nothing differs between two worlds, except at some addresses, but that folders have been
made where nothing was. -/
def SparesAllBut (changed : List Address) (w w' : World) : Prop :=
  ∀ a, a ∉ changed → w'.get? a = w.get? a ∨ w.get? a = none ∧ w'.get? a = some .folder

theorem sparesAllBut_makeFolders (w : World) (p : Path) :
    SparesAllBut [] w (w.makeFolders p).2 := by
  refine makeFirst_induction (I := SparesAllBut [] w) (fun {w₁ w₂ q} _ _ spares made => ?_)
    fun a _ => .inl rfl
  obtain ⟨b, -, free, rfl⟩ := makeFolder_eq_ok made
  have noFolder : w₁.get? b ≠ some .folder := by simp [free]
  have nonempty := ne_nil_of_get? noFolder
  intro a hchanged
  rw [get?_put _ _ _ nonempty]
  split
  next same =>
    subst same
    refine .inr ⟨?_, rfl⟩
    obtain kept | ⟨missing, -⟩ := spares a hchanged
    · rw [← kept, free]
    · exact missing
  next => exact spares a hchanged

theorem SparesAllBut.put (h : SparesAllBut [] w w') (nonempty : a ≠ []) :
    SparesAllBut [a] w (w'.put a (.file content)) := by
  intro b other
  rw [get?_put _ _ _ nonempty, if_neg (by simpa using other)]
  exact h b List.not_mem_nil

end Mutagenesis.Files.World
