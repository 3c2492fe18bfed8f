import Mutagenesis.Proofs.Files.Ends

/-!
# Folders that can be made

The folders of a path can be made when the path leads to a folder already, and when nothing but its
last name is missing. Then a file can be written there, unless a folder has its name.
-/
namespace Mutagenesis.Files.World

variable {w : World} {avoided at' a : Address} {ps : List Bytes} {p q : Path} {r : Route}
  {name last : Bytes} {onLink onLink' : Address → Path → List Bytes → Except Fault Address}

/-! ## Folders that are there -/

/-- What can be followed through a link at its end can be followed up to it. -/
theorem exists_walk_of_links
    (links : ∀ {at' target rest}, onLink at' target rest = .ok a →
      ∃ b, onLink' at' target rest = .ok b)
    (h : w.walk true onLink at' ps = .ok a) : ∃ b, w.walk false onLink' at' ps = .ok b := by
  induction ps generalizing at' with
  | nil => exact ⟨at', rfl⟩
  | cons piece rest ih =>
      rw [walk] at h ⊢
      split at h
      next idle => simpa [idle] using ih h
      next idle =>
        split at h
        next up => simpa [idle, up] using ih h
        next up =>
          split at h
          next => simp at h
          next short =>
            simp only [idle, up, short, if_false]
            cases found : w.get? (piece :: at') with
            | none =>
                simp only [found] at h
                exact ⟨_, h⟩
            | some e =>
                cases e with
                | folder => exact ih (by simpa [found] using h)
                | file => exact ⟨_, by simpa [found] using h⟩
                | link target =>
                    by_cases last : rest = []
                    · simp [last]
                    · simpa [last] using links (by simpa [found] using h)

theorem exists_walk_of_follow (n : Nat)
    (h : w.walk true (w.throughLink true n) at' ps = .ok a) :
    ∃ b, w.walk false (w.throughLink false n) at' ps = .ok b := by
  induction n generalizing at' ps with
  | zero => exact exists_walk_of_links (fun h => by simp [throughLink] at h) h
  | succ n ih => exact exists_walk_of_links (fun h => ih h) h

theorem exists_locate_of_follow (h : w.locate true p = .ok a) : ∃ b, w.locate false p = .ok b := by
  unfold locate at h ⊢
  split at h
  next => simp at h
  next noZero =>
    split at h
    next => simp at h
    next some_byte =>
      split at h
      next => simp at h
      next short =>
        rw [if_neg noZero, if_neg some_byte, if_neg short]
        exact exists_walk_of_follow linkLimit h

/-- The folders of a path to a folder can be made, for there is nothing to do. -/
theorem makeFolders_of_isFolder (h : w.isFolder p = true) : (w.makeFolders p).1 = .ok () := by
  obtain ⟨a, located⟩ : ∃ a, w.locate true p = .ok a := by
    cases located : w.locate true p with
    | error fault => simp [isFolder, entryAt?, located, Except.toOption] at h
    | ok a => exact ⟨a, rfl⟩
  obtain ⟨b, located⟩ := exists_locate_of_follow located
  rw [makeFolders, Path.ancestors, Path.ancestorsUpTo, makeFirst]
  split
  next => rfl
  next =>
    cases found : w.get? b with
    | none => simp [makeFolder, located, found, bind, Except.bind, pure, Except.pure]
    | some e =>
        have present : w.makeFolder p = .error .present := by
          simp [makeFolder, located, found, bind, Except.bind, throw, throwThe,
            MonadExceptOf.throw]
        simp only [present]

/-- The path above a name in a folder leads to the folder. -/
theorem Takes.locate_parent (h : w.Takes avoided p r) (hname : isName name = true)
    (usable : IsUsable (p.join ⟨name⟩)) (passes : w.Passes r.base r.names)
    (nonempty : ((p.join ⟨name⟩).parent?.getD ⟨[]⟩).bytes ≠ []) :
    w.locate true ((p.join ⟨name⟩).parent?.getD ⟨[]⟩) = .ok r.address := by
  have along := Path.leadsAlong_parent p hname
  obtain ⟨steps, within⟩ := Path.steps_parent p hname
  have start : start w.home ((p.join ⟨name⟩).parent?.getD ⟨[]⟩) = start w.home p := by
    rw [World.start, World.start, along.start.resolve_left nonempty]
  have takes : w.Takes avoided ((p.join ⟨name⟩).parent?.getD ⟨[]⟩) r :=
    ⟨h.links, by rw [start, steps]; exact h.way, h.noLink, h.below⟩
  exact takes.locate_eq_ok (usable.of_isPrefix within) nonempty passes

/-- The folders above a name are there when those of the route are, and making them changes
nothing. -/
theorem Takes.makeFolders_parent (h : w.Takes avoided p r) (hname : isName name = true)
    (usable : IsUsable (p.join ⟨name⟩)) (passes : w.Passes r.base r.names) :
    w.makeFolders ((p.join ⟨name⟩).parent?.getD ⟨[]⟩) = (.ok (), w) := by
  have here : ∀ front, front <+: r.names → w.get? (front.reverse ++ r.base) = some .folder :=
    fun _ hfront => passes.get?_of_isPrefix h.way.here_base hfront
  have same : (w.makeFolders ((p.join ⟨name⟩).parent?.getD ⟨[]⟩)).2 = w := by
    refine makeFolders_induction (I := fun w' => w' = w) (p.leadsAlong_parent hname)
      (fun same => same ▸ h) (fun {w' front} same hfront free => ?_) rfl
    rw [same, here front hfront] at free
    cases free
  refine Prod.ext ?_ same
  by_cases empty : ((p.join ⟨name⟩).parent?.getD ⟨[]⟩).bytes = []
  · rw [makeFolders, Path.ancestors, Path.ancestorsUpTo, makeFirst, if_pos empty]
  · refine makeFolders_of_isFolder ?_
    have located := h.locate_parent hname usable passes empty
    simp [isFolder, entryAt?, located, Except.toOption, here r.names List.prefix_rfl,
      Route.address]

/-- When nothing but the last name of a folder is missing, it is made. -/
theorem Takes.makeFolders_parent_of_missing {last : Bytes} (h : w.Takes avoided p r)
    (hname : isName name = true) (hlast : isName last = true)
    (usable : IsUsable ((p.join ⟨name⟩).join ⟨last⟩)) (passes : w.Passes r.base r.names)
    (short : name.length ≤ nameLimit) (missing : w.get? (name :: r.address) = none) :
    w.makeFolders (((p.join ⟨name⟩).join ⟨last⟩).parent?.getD ⟨[]⟩) =
      (.ok (), w.put (name :: r.address) .folder) := by
  have along := Path.leadsAlong_parent (p.join ⟨name⟩) hlast
  obtain ⟨steps, within⟩ := Path.steps_parent (p.join ⟨name⟩) hlast
  rw [Path.steps_join_name hname] at steps
  generalize ((p.join ⟨name⟩).join ⟨last⟩).parent?.getD ⟨[]⟩ = q at along steps within ⊢
  have some_step : q.steps ≠ [] := by simp [steps]
  have nonempty : q.bytes ≠ [] := by
    intro empty
    simp [Path.steps, empty, pieces, stepsOf, isIdle] at some_step
  have absolute : q.isAbsolute = p.isAbsolute :=
    (along.start.resolve_left nonempty).trans
      (Path.isAbsolute_join p (Path.isAbsolute_of_isName hname))
  have located : w.locate false q = .ok (name :: r.address) := by
    rw [h.locate_of_steps hname false (usable.of_isPrefix within) nonempty steps absolute
      (along.firm.resolve_left some_step), alongNames_eq_ok]
    exact ⟨passes, short, rfl⟩
  have made : w.makeFolder q = .ok (w.put (name :: r.address) .folder) := by
    simp [makeFolder, located, missing, bind, Except.bind, pure, Except.pure]
  rw [makeFolders, Path.ancestors, Path.ancestorsUpTo, makeFirst, if_neg nonempty]
  simp only [made]

/-- A file is written by its name unless a folder has the name. -/
theorem Takes.write_join (h : w.Takes avoided p r) (hname : isName name = true)
    (usable : IsUsable (p.join ⟨name⟩)) (passes : w.Passes r.base r.names)
    (short : name.length ≤ nameLimit) (noFolder : w.get? (name :: r.address) ≠ some .folder)
    (content : Bytes) :
    w.write (p.join ⟨name⟩) content = .ok (w.put (name :: r.address) (.file content)) := by
  have located : w.locate true (p.join ⟨name⟩) = .ok (name :: r.address) :=
    (h.locate_join_eq_ok hname).2 ⟨usable, passes, short, rfl⟩
  cases found : w.get? (name :: r.address) with
  | none => simp [write, located, found, bind, Except.bind, pure, Except.pure]
  | some e =>
      cases e with
      | folder => exact absurd found noFolder
      | file | link => simp [write, located, found, bind, Except.bind, pure, Except.pure]

end Mutagenesis.Files.World
