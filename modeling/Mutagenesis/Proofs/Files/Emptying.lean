import Mutagenesis.Proofs.Files.Making
import Mutagenesis.Proofs.Files.Removal

/-!
# Where less is left

Where some entries have gone and the others are as they were, a path leads where it did, or it comes
to a place where nothing stands any more. So what has been removed by a path cannot be reached by
it, and more removals do not change that.
-/
namespace Mutagenesis.Files.World

/-- Whether entries of a world are missing in another one that is otherwise the same. -/
structure Shrinks (w w' : World) : Prop where
  home : w'.home = w.home
  kept : ∀ b, w'.get? b = none ∨ w'.get? b = w.get? b

/-- Whether what a path leads to is missing or leads to where nothing stands. -/
def IsAbsent (w : World) (found : Except Fault Address) : Prop :=
  found = .error .missing ∨ ∃ a, found = .ok a ∧ w.get? a = none

/-- Whether a path leads to nothing, not even to a link. -/
def IsVoid (w : World) (p : Path) : Prop := w.IsAbsent (w.locate false p)

variable {w w' : World} {a at' : Address} {ps : List Bytes} {p : Path} {follow : Bool}
  {found : Except Fault Address}

namespace Shrinks

theorem refl (w : World) : Shrinks w w := ⟨rfl, fun _ => .inr rfl⟩

theorem trans {w'' : World} (h : Shrinks w w') (h' : Shrinks w' w'') : Shrinks w w'' :=
  ⟨h'.home.trans h.home, fun b => (h'.kept b).elim .inl fun same =>
    (h.kept b).imp same.trans same.trans⟩

theorem remove (w : World) (gone : Address → Bool) : Shrinks w (w.remove gone) := by
  refine ⟨rfl, fun b => ?_⟩
  rw [get?_remove]
  split
  · exact .inl rfl
  · exact .inr rfl

theorem get?_eq_none (h : Shrinks w w') (free : w.get? a = none) : w'.get? a = none :=
  (h.kept a).elim id fun same => same.trans free

theorem isAbsent (h : Shrinks w w') (absent : w.IsAbsent found) : w'.IsAbsent found :=
  absent.imp_right fun ⟨a, ends, free⟩ => ⟨a, ends, h.get?_eq_none free⟩

/-! ## Paths -/

section Walk

variable {onLink onLink' : Address → Path → List Bytes → Except Fault Address}

/-- A walk comes to an end where it did, or where nothing stands any more. -/
theorem walk (h : Shrinks w w')
    (links : ∀ at' target rest, onLink' at' target rest = onLink at' target rest ∨
      w'.IsAbsent (onLink' at' target rest)) :
    w'.walk follow onLink' at' ps = w.walk follow onLink at' ps ∨
      w'.IsAbsent (w'.walk follow onLink' at' ps) := by
  induction ps generalizing at' with
  | nil => exact .inl rfl
  | cons piece rest ih =>
      rw [World.walk, World.walk]
      split
      next => exact ih
      next =>
        split
        next => exact ih
        next =>
          split
          next => exact .inl rfl
          next =>
            obtain gone | same := h.kept (piece :: at')
            · -- what was followed is gone
              simp only [gone]
              split
              next => exact .inr (.inr ⟨_, rfl, gone⟩)
              next => exact .inr (.inl rfl)
            · rw [same]
              cases w.get? (piece :: at') with
              | none => exact .inl rfl
              | some e =>
                  cases e with
                  | folder => exact ih
                  | file => exact .inl rfl
                  | link target =>
                      dsimp only
                      split
                      · exact .inl rfl
                      · exact links at' target rest

theorem throughLink (h : Shrinks w w') (n : Nat) (at' : Address) (target : Path)
    (rest : List Bytes) :
    w'.throughLink follow n at' target rest = w.throughLink follow n at' target rest ∨
      w'.IsAbsent (w'.throughLink follow n at' target rest) := by
  induction n generalizing at' target rest with
  | zero => exact .inl rfl
  | succ n ih => exact h.walk ih

end Walk

/-- A path leads where it did, or to where nothing stands any more. -/
theorem locate (h : Shrinks w w') (follow : Bool) (p : Path) :
    w'.locate follow p = w.locate follow p ∨ w'.IsAbsent (w'.locate follow p) := by
  unfold World.locate
  split
  · exact .inl rfl
  · split
    · exact .inl rfl
    · split
      · exact .inl rfl
      · rw [h.home]
        exact h.walk (h.throughLink linkLimit)

/-- What leads to nothing does so where less is left. -/
theorem isVoid (h : Shrinks w w') (void : w.IsVoid p) : w'.IsVoid p := by
  obtain same | absent := h.locate false p
  · exact h.isAbsent (same.symm ▸ void)
  · exact absent

/-- A path leads to the entry to which it led, or to none. -/
theorem entryAt? (h : Shrinks w w') (p : Path) :
    w'.entryAt? p = none ∨ w'.entryAt? p = w.entryAt? p := by
  obtain same | missing | ⟨a, located, free⟩ := h.locate true p
  · cases located : w.locate true p with
    | error fault => exact .inl (by simp [World.entryAt?, same, located, Except.toOption])
    | ok a => simpa [World.entryAt?, same, located, Except.toOption] using h.kept a
  · exact .inl (by simp [World.entryAt?, missing, Except.toOption])
  · exact .inl (by simp [World.entryAt?, located, Except.toOption, free])

/-- What is not there is not there where less is left. -/
theorem isPresent (h : Shrinks w w') (absent : w.isPresent p = false) :
    w'.isPresent p = false := by
  obtain gone | same := h.entryAt? p
  · simp [World.isPresent, gone]
  · rwa [World.isPresent, same]

theorem isFolder (h : Shrinks w w') (noFolder : w.isFolder p = false) :
    w'.isFolder p = false := by
  obtain gone | same := h.entryAt? p
  · simp [World.isFolder, gone]
  · rwa [World.isFolder, same]

end Shrinks

/-! ## Links at the end -/

section Walk

variable {onLink onLink' : Address → Path → List Bytes → Except Fault Address}

/-- It makes no difference whether a link at the end is followed when a walk does not end in one. -/
theorem walk_true_of_false
    (links : ∀ {at' target rest}, onLink at' target rest = found →
      onLink' at' target rest = found)
    (noLink : ∀ a target, found = .ok a → w.get? a ≠ some (.link target))
    (h : w.walk false onLink at' ps = found) : w.walk true onLink' at' ps = found := by
  induction ps generalizing at' with
  | nil => exact h
  | cons piece rest ih =>
      rw [World.walk] at h ⊢
      split at h
      next idle => exact (if_pos idle).trans (ih h)
      next idle =>
        rw [if_neg idle]
        split at h
        next up => exact (if_pos up).trans (ih h)
        next up =>
          rw [if_neg up]
          split at h
          next long => exact (if_pos long).trans h
          next short =>
            rw [if_neg short]
            cases there : w.get? (piece :: at') with
            | none => simpa only [there] using h
            | some e =>
                simp only [there] at h
                cases e with
                | folder => exact ih h
                | file => exact h
                | link target =>
                    by_cases last : rest = []
                    · refine absurd there (noLink _ target ?_)
                      simpa [last] using h.symm
                    · have more : rest.isEmpty = false := by simpa using last
                      simp only [more, Bool.false_and, Bool.false_eq_true, if_false] at h ⊢
                      exact links h

theorem throughLink_true_of_false
    (noLink : ∀ a target, found = .ok a → w.get? a ≠ some (.link target)) (n : Nat)
    {target : Path} {rest : List Bytes} (h : w.throughLink false n at' target rest = found) :
    w.throughLink true n at' target rest = found := by
  induction n generalizing at' target rest with
  | zero => exact h
  | succ n ih => exact walk_true_of_false ih noLink h

end Walk

/-- It makes no difference whether a link at the end is followed when there is none. -/
theorem locate_true_of_false (h : w.locate false p = found)
    (noLink : ∀ a target, found = .ok a → w.get? a ≠ some (.link target)) :
    w.locate true p = found := by
  unfold locate at h ⊢
  split at h
  next zero => exact (if_pos zero).trans h
  next noZero =>
    rw [if_neg noZero]
    split at h
    next empty => exact (if_pos empty).trans h
    next some_byte =>
      rw [if_neg some_byte]
      split at h
      next long => exact (if_pos long).trans h
      next short =>
        rw [if_neg short]
        exact walk_true_of_false (throughLink_true_of_false noLink linkLimit) noLink h

/-! ## Operations -/

namespace IsVoid

theorem locate (void : w.IsVoid p) (follow : Bool) : w.IsAbsent (w.locate follow p) := by
  cases follow with
  | false => exact void
  | true =>
      rw [locate_true_of_false rfl]
      · exact void
      · intro a target located found
        obtain missing | ⟨b, located', free⟩ := void
        · simp [missing] at located
        · obtain rfl := Except.ok.inj (located.symm.trans located')
          simp [free] at found

theorem isPresent (void : w.IsVoid p) : w.isPresent p = false := by
  obtain missing | ⟨a, located, free⟩ := void.locate true
  · simp [World.isPresent, entryAt?, missing, Except.toOption]
  · simp [World.isPresent, entryAt?, located, Except.toOption, free]

theorem list (void : w.IsVoid p) : w.list p = .error .missing := by
  obtain missing | ⟨a, located, free⟩ := void.locate true
  · simp [World.list, missing, bind, Except.bind]
  · simp [World.list, located, free, bind, Except.bind, throw, throwThe, MonadExceptOf.throw]

end IsVoid

/-- There is nothing to remove exactly where a path leads to nothing. -/
theorem removeTree_eq_missing_iff : w.removeTree p = .error .missing ↔ w.IsVoid p := by
  unfold IsVoid IsAbsent
  cases located : w.locate false p with
  | error fault => simp [removeTree, located, bind, Except.bind]
  | ok a =>
      cases there : w.get? a with
      | none => simp [removeTree, located, there, bind, Except.bind, throw, throwThe,
          MonadExceptOf.throw]
      | some e => cases e <;> simp [removeTree, located, there, bind, Except.bind, pure,
          Except.pure, throw, throwThe, MonadExceptOf.throw]

section Walk

variable {onLink : Address → Path → List Bytes → Except Fault Address} {name : Bytes}

/-- A walk along a last name ends in it. -/
theorem head?_of_walk (hname : isName name = true)
    (links : ∀ {at' target rest}, onLink at' target (rest ++ [name]) = .ok a →
      a.head? = some name)
    (h : w.walk false onLink at' (ps ++ [name]) = .ok a) : a.head? = some name := by
  induction ps generalizing at' with
  | nil =>
      simp only [List.nil_append, World.walk, isIdle_of_isName hname, isUp_of_isName hname,
        List.all_nil, List.isEmpty_nil, Bool.not_false, Bool.and_self, Bool.false_eq_true, if_true,
        if_false] at h
      split at h
      next => simp at h
      next =>
        obtain rfl : name :: at' = a := by
          split at h <;> exact Except.ok.inj h
        rfl
  | cons piece rest ih =>
      rw [List.cons_append, World.walk] at h
      split at h
      next => exact ih h
      next =>
        split at h
        next => exact ih h
        next =>
          split at h
          next => simp at h
          next =>
            have firm : isFirm (rest ++ [name]) = true := by
              simp [isFirm, isIdle_of_isName hname]
            have more : (rest ++ [name]).isEmpty = false := by simp
            simp only [all_isEmpty_eq_false firm, more, Bool.false_and, Bool.false_eq_true,
              if_false] at h
            split at h
            next => simp at h
            next => exact ih h
            next => simp at h
            next => exact links h

theorem head?_of_throughLink (hname : isName name = true) (n : Nat) {target : Path}
    {rest : List Bytes} (h : w.throughLink false n at' target (rest ++ [name]) = .ok a) :
    a.head? = some name := by
  induction n generalizing at' target rest with
  | zero => simp [throughLink] at h
  | succ n ih =>
      rw [throughLink, ← List.append_assoc] at h
      exact head?_of_walk hname ih h

end Walk

/-- The path of a name in a folder leads to an entry of that name. -/
theorem head?_of_locate_join {name : Bytes} (hname : isName name = true)
    (h : w.locate false (p.join ⟨name⟩) = .ok a) : a.head? = some name := by
  have nonempty := bytes_join_ne_nil p hname
  have usable := isUsable_of_locate nonempty h (by simp) (by simp)
  rw [locate_eq false usable nonempty, walk_stepsOf linkLimit (Path.isFirm_pieces_join hname p),
    ← Path.steps, Path.steps_join_name hname] at h
  exact head?_of_walk hname (head?_of_throughLink hname linkLimit) h

/-- A path whose end is removed leads to nothing. -/
theorem isVoid_remove {gone : Address → Bool} (located : w.locate false p = .ok a)
    (nonempty : a ≠ []) (goes : gone a = true) : (w.remove gone).IsVoid p := by
  obtain same | absent := (Shrinks.remove w gone).locate false p
  · refine .inr ⟨a, same.trans located, ?_⟩
    rw [get?_remove, if_pos ⟨nonempty, goes⟩]
  · exact absent

/-- What has been removed with all below it is not there any more. -/
theorem isVoid_of_removeTree {name : Bytes} (hname : isName name = true)
    (h : w.removeTree (p.join ⟨name⟩) = .ok w') : Shrinks w w' ∧ w'.IsVoid (p.join ⟨name⟩) := by
  cases located : w.locate false (p.join ⟨name⟩) with
  | error fault => simp [removeTree, located, bind, Except.bind] at h
  | ok a =>
      have nonempty : a ≠ [] := by
        rintro rfl
        simpa using head?_of_locate_join hname located
      have within : isWithin a a = true := List.isSuffixOf_iff_suffix.2 List.suffix_rfl
      simp only [removeTree, located, bind, Except.bind] at h
      split at h
      next =>
        obtain rfl := Except.ok.inj h
        exact ⟨.remove w _, isVoid_remove located nonempty within⟩
      next => simp [throw, throwThe, MonadExceptOf.throw] at h
      next =>
        obtain rfl := Except.ok.inj h
        exact ⟨.remove w _, isVoid_remove located nonempty (by simp)⟩
      next => simp [throw, throwThe, MonadExceptOf.throw] at h

/-- A file that has been removed is not there any more. -/
theorem isVoid_of_removeFile (h : w.removeFile p = .ok w') : Shrinks w w' ∧ w'.IsVoid p := by
  obtain ⟨a, located, noFolder, rfl⟩ := removeFile_eq_ok h
  exact ⟨.remove w _, isVoid_remove located (ne_nil_of_get? noFolder) (by simp)⟩

/-- What is there and is no folder can be removed. -/
theorem exists_removeFile (present : w.isPresent p = true) (noFolder : w.isFolder p = false) :
    ∃ w', w.removeFile p = .ok w' := by
  cases followed : w.locate true p with
  | error fault => simp [isPresent, entryAt?, followed, Except.toOption] at present
  | ok a =>
      obtain ⟨b, located⟩ := exists_locate_of_follow followed
      have same (noLink : ∀ target, w.get? b ≠ some (.link target)) : a = b := by
        have here := locate_true_of_false located fun c target ends => by
          obtain rfl := Except.ok.inj ends
          exact noLink target
        exact Except.ok.inj (followed.symm.trans here)
      cases found : w.get? b with
      | none =>
          obtain rfl := same (by simp [found])
          simp [isPresent, entryAt?, followed, found, Except.toOption] at present
      | some e =>
          cases e with
          | folder =>
              obtain rfl := same (by simp [found])
              simp [isFolder, entryAt?, followed, found, Except.toOption] at noFolder
          | file | link => simp [removeFile, located, found, bind, Except.bind, pure, Except.pure]

end Mutagenesis.Files.World
