import Mutagenesis.Proofs.Files.Growth

/-!
# Where routes end

The routes of `Routes` say where the paths of files in a folder lead. The path of the folder itself
leads to the end of its route when all on the way is there, however many idle pieces it is spelled
with. What is read or listed below the end depends on nothing but the entries there, so it stays the
same as long as they do.
-/
namespace Mutagenesis

open Files (IsUsable nameLimit Route)

/-- Whether nothing but a missing entry can keep a path from leading to the end of its route. -/
structure Path.IsFit (p : Path) (r : Route) : Prop where
  usable : IsUsable p
  nonempty : p.bytes ≠ []
  short : ∀ name ∈ r.names, name.length ≤ nameLimit

namespace Files.World

variable {w w' : World} {avoided at' base a : Address} {links : Nat} {names ss ps : List Bytes}
  {p q : Path} {r : Route} {name content : Bytes} {follow : Bool}
  {onLink : Address → Path → List Bytes → Except Fault Address}

/-! ## The path of a folder -/

/-- Idle pieces are passed over. -/
theorem walk_append_of_idle {idle : List Bytes} (h : ∀ piece ∈ idle, isIdle piece = true) :
    w.walk follow onLink at' (idle ++ ps) = w.walk follow onLink at' ps := by
  induction idle with
  | nil => rfl
  | cons piece idle ih =>
      rw [List.forall_mem_cons] at h
      rw [List.cons_append, walk, if_pos h.1]
      exact ih h.2

/-- The pieces of which the first step is known are idle before it. -/
theorem walk_of_stepsOf_eq_cons {step : Bytes} {rest : List Bytes}
    (h : stepsOf ps = step :: rest) :
    ∃ more, stepsOf more = rest ∧
      w.walk follow onLink at' ps = w.walk follow onLink at' (step :: more) := by
  obtain ⟨idle, more, rfl, hidle, -, hmore⟩ := List.filter_eq_cons_iff.1 h
  exact ⟨more, hmore, walk_append_of_idle (by simpa using hidle)⟩

/-- Names that lead from folder to folder are followed to the last of them. -/
theorem Passes.walk_eq_ok (passes : w.Passes at' names) (named : ∀ name ∈ names, isName name = true)
    (steps : stepsOf ps = names) : w.walk follow onLink at' ps = .ok (names.reverse ++ at') := by
  induction names generalizing at' ps with
  | nil => exact walk_of_stepsOf_eq_nil steps
  | cons name rest ih =>
      obtain ⟨short, here, passes⟩ := passes
      rw [List.forall_mem_cons] at named
      obtain ⟨more, hmore, same⟩ := walk_of_stepsOf_eq_cons steps
      rw [same, walk]
      simp [isIdle_of_isName named.1, isUp_of_isName named.1, Nat.not_lt.2 short, here,
        ih passes named.2 hmore]

/-- A path that goes a way whose names lead from folder to folder is followed to its end. -/
theorem Way.walk_eq_ok (way : Way w avoided links at' ss base names) (passes : w.Passes base names)
    (n : Nat) (steps : stepsOf ps = ss) :
    w.walk true (w.throughLink true (n + links)) at' ps = .ok (names.reverse ++ base) := by
  induction way generalizing ps with
  | arrived _ _ named => exact passes.walk_eq_ok named steps
  | @up links at' piece rest _ _ _ _ up _ ih =>
      obtain ⟨more, hmore, same⟩ := walk_of_stepsOf_eq_cons steps
      rw [same, walk]
      simp [isIdle_of_isUp up, up, ih passes hmore]
  | @into links at' name rest _ _ _ _ named short more ih =>
      obtain ⟨left, hleft, same⟩ := walk_of_stepsOf_eq_cons steps
      rw [same, walk]
      simp [isIdle_of_isName named, isUp_of_isName named, Nat.not_lt.2 short, more.here,
        ih passes hleft]
  | @through links at' name target rest _ _ _ _ named short found _ _ ih =>
      obtain ⟨left, hleft, same⟩ := walk_of_stepsOf_eq_cons steps
      have onward : stepsOf (pieces target.bytes ++ left) = target.steps ++ rest := by
        rw [stepsOf_append, hleft, Path.steps]
      rw [same, walk, ← Nat.add_assoc]
      simp [isIdle_of_isName named, isUp_of_isName named, Nat.not_lt.2 short, found, throughLink,
        ih passes onward]

/-- What is read is the file to which the path leads. -/
theorem read_eq_ok (h : w.read p = .ok content) :
    ∃ a, w.locate true p = .ok a ∧ w.get? a = some (.file content) := by
  cases located : w.locate true p with
  | error fault => simp [World.read, located, bind, Except.bind] at h
  | ok a =>
      simp only [World.read, located, bind, Except.bind] at h
      split at h
      next found => exact ⟨a, rfl, Except.ok.inj h ▸ found⟩
      all_goals simp [throw, throwThe, MonadExceptOf.throw] at h

namespace Takes

/-- The path of a folder leads to the end of its route. -/
theorem locate_eq_ok (h : w.Takes avoided p r) (usable : IsUsable p) (nonempty : p.bytes ≠ [])
    (passes : w.Passes r.base r.names) : w.locate true p = .ok r.address := by
  have links : linkLimit = linkLimit - r.links + r.links := (Nat.sub_add_cancel h.links).symm
  rw [World.locate_eq true usable nonempty, links]
  exact h.way.walk_eq_ok passes _ rfl

theorem canonical?_eq_some (h : w.Takes avoided p r) (tree : w.IsTree) (fit : p.IsFit r)
    (here : w.get? r.address = some .folder) : w.canonical? p = some r.address := by
  have passes : w.Passes r.base r.names := tree.passes here fit.short
  simp [canonical?, h.locate_eq_ok fit.usable fit.nonempty passes, here]

/-! ## What is read below the end -/

/-- A file is read by its name when it stands below the end of the route. -/
theorem read_join_eq_ok (h : w.Takes avoided p r) (hname : isName name = true) :
    w.read (p.join ⟨name⟩) = .ok content ↔ IsUsable (p.join ⟨name⟩) ∧
      w.Passes r.base r.names ∧ name.length ≤ nameLimit ∧
        w.get? (name :: r.address) = some (.file content) := by
  constructor
  · intro read
    obtain ⟨a, located, found⟩ := read_eq_ok read
    obtain ⟨usable, passes, short, rfl⟩ := (h.locate_join_eq_ok hname).1 located
    exact ⟨usable, passes, short, found⟩
  · rintro ⟨usable, passes, short, found⟩
    have located : w.locate true (p.join ⟨name⟩) = .ok (name :: r.address) :=
      (h.locate_join_eq_ok hname).2 ⟨usable, passes, short, rfl⟩
    simp [World.read, located, found, bind, Except.bind, pure, Except.pure]

/-- What is listed by a name depends on what stands below the end of the route. -/
theorem list_join_congr (h : w.Takes avoided p r) (h' : w'.Takes avoided p r)
    (hname : isName name = true) (usable : IsUsable (p.join ⟨name⟩))
    (short : name.length ≤ nameLimit) (passes : w.Passes r.base r.names)
    (passes' : w'.Passes r.base r.names)
    (entry : w'.get? (name :: r.address) = w.get? (name :: r.address))
    (names : w'.names (name :: r.address) = w.names (name :: r.address)) :
    w'.list (p.join ⟨name⟩) = w.list (p.join ⟨name⟩) := by
  have located : w.locate true (p.join ⟨name⟩) = .ok (name :: r.address) :=
    (h.locate_join_eq_ok hname).2 ⟨usable, passes, short, rfl⟩
  have located' : w'.locate true (p.join ⟨name⟩) = .ok (name :: r.address) :=
    (h'.locate_join_eq_ok hname).2 ⟨usable, passes', short, rfl⟩
  simp only [World.list, located, located', bind, Except.bind, entry, names]

end Takes

theorem list_eq_ok {found : List Bytes} (h : w.list p = .ok found) :
    ∃ a, w.locate true p = .ok a ∧ found = w.names a := by
  cases located : w.locate true p with
  | error fault => simp [World.list, located, bind, Except.bind] at h
  | ok a =>
      simp only [World.list, located, bind, Except.bind] at h
      split at h
      next => exact ⟨a, rfl, (Except.ok.inj h).symm⟩
      all_goals simp [throw, throwThe, MonadExceptOf.throw] at h

/-- Folders are passed as before where they are kept. -/
theorem Passes.keeps (passes : w.Passes at' names) (kept : Keeps avoided w w')
    (outside : ¬ avoided <:+ names.reverse ++ at') : w'.Passes at' names := by
  induction names generalizing at' with
  | nil => trivial
  | cons name rest ih =>
      obtain ⟨short, here, passes⟩ := passes
      have onward : (name :: rest).reverse ++ at' = rest.reverse ++ name :: at' := by simp
      rw [onward] at outside
      refine ⟨short, kept.folders _ (fun within => outside ?_) here, ih passes outside⟩
      exact within.trans (List.suffix_append _ _)

end Files.World

end Mutagenesis
