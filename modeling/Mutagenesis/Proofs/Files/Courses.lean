import Mutagenesis.Proofs.Files.Growth

/-!
# Courses

The course of a path tells which links it goes through and where the names begin that are left, as a
way does; but the folders on it need not be there yet. So a course lasts as long as the links do,
and wherever the path of a name in the folder leads anywhere, the course is a way.
-/
namespace Mutagenesis.Files.World

/-- The course of steps from an address, through so many links, to the address from which on names
alone are left. It goes through nothing at or below the address to avoid. -/
inductive Course (w : World) (avoided : Address) :
    Nat → Address → List Bytes → Address → List Bytes → Prop
  | arrived {at' names} (free : ¬ avoided <:+ at')
      (named : ∀ name ∈ names, isName name = true) : Course w avoided 0 at' names at' names
  | up {links at' piece rest base names} (free : ¬ avoided <:+ at') (up : isUp piece = true)
      (more : Course w avoided links at'.tail rest base names) :
      Course w avoided links at' (piece :: rest) base names
  | into {links at' name rest base names} (free : ¬ avoided <:+ at') (named : isName name = true)
      (noLink : ∀ target, w.get? (name :: at') ≠ some (.link target))
      (more : Course w avoided links (name :: at') rest base names) :
      Course w avoided links at' (name :: rest) base names
  | through {links at' name target rest base names} (free : ¬ avoided <:+ at')
      (named : isName name = true) (found : w.get? (name :: at') = some (.link target))
      (freeLink : ¬ avoided <:+ name :: at')
      (more : Course w avoided links (start at' target) (target.steps ++ rest) base names) :
      Course w avoided (links + 1) at' (name :: rest) base names

variable {w w' : World} {avoided at' base a : Address} {links : Nat} {ss names tail : List Bytes}
  {p q : Path} {r : Route} {name : Bytes} {follow : Bool}

/-- A way is a course. -/
theorem Way.course (way : Way w avoided links at' ss base names) :
    Course w avoided links at' ss base names := by
  induction way with
  | arrived _ free named => exact .arrived free named
  | up _ free up _ ih => exact .up free up ih
  | into _ free named _ more ih =>
      refine .into free named (fun target found => ?_) ih
      simp [more.here] at found
  | through _ free named _ found freeLink _ ih => exact .through free named found freeLink ih

namespace Course

/-- A course lasts as long as the links on it do and no link comes up. -/
theorem keeps (course : Course w avoided links at' ss base names) (kept : Keeps avoided w w') :
    Course w' avoided links at' ss base names := by
  induction course with
  | arrived free named => exact .arrived free named
  | up free up _ ih => exact .up free up ih
  | into free named noLink _ ih =>
      exact .into free named (fun target found => noLink target (kept.noLink _ _ found)) ih
  | through free named found freeLink _ ih =>
      exact .through free named (kept.linked _ _ freeLink found) freeLink ih

/-- A course goes on along further names. -/
theorem append (course : Course w avoided links at' ss base names) {more : List Bytes}
    (hmore : ∀ name ∈ more, isName name = true) :
    Course w avoided links at' (ss ++ more) base (names ++ more) := by
  induction course with
  | arrived free named =>
      exact .arrived free fun name hname => (List.mem_append.1 hname).elim (named name)
        (hmore name)
  | up free up _ ih => exact .up free up ih
  | into free named noLink _ ih => exact .into free named noLink ih
  | through free named found freeLink _ ih =>
      exact .through free named found freeLink (List.append_assoc .. ▸ ih)

/-- Where the course of a path can be followed, it is a way. -/
theorem way (course : Course w avoided links at' ss base names) (tree : w.IsTree)
    (here : w.get? at' = some .folder) (firm : isFirm tail = true) (n : Nat)
    (h : w.walk follow (w.throughLink follow (n + links)) at' (ss ++ tail) = .ok a) :
    Way w avoided links at' ss base names := by
  induction course with
  | arrived free named => exact .arrived here free named
  | @up links at' piece rest _ _ free up more ih =>
      simp only [List.cons_append, walk, isIdle_of_isUp up, up, if_true, Bool.false_eq_true,
        if_false] at h
      exact .up here free up (ih (tree.get?_above here) h)
  | @into links at' name rest _ _ free named noLink more ih =>
      have some_left : isFirm (rest ++ tail) = true :=
        (isFirm_append rest (ne_nil_of_isFirm firm)).trans firm
      simp only [List.cons_append, walk, isIdle_of_isName named, isUp_of_isName named,
        Bool.false_eq_true, if_false, all_isEmpty_eq_false some_left,
        List.isEmpty_eq_false_iff.2 (ne_nil_of_isFirm some_left)] at h
      split at h
      next => simp at h
      next short =>
        split at h
        next => simp at h
        next found => exact .into here free named (Nat.not_lt.1 short) (ih found h)
        next => simp at h
        next target found => exact absurd found (noLink target)
  | @through links at' name target rest _ _ free named found freeLink more ih =>
      have some_left : isFirm (rest ++ tail) = true :=
        (isFirm_append rest (ne_nil_of_isFirm firm)).trans firm
      simp only [List.cons_append, walk, isIdle_of_isName named, isUp_of_isName named,
        Bool.false_eq_true, if_false, found, Bool.false_and,
        List.isEmpty_eq_false_iff.2 (ne_nil_of_isFirm some_left)] at h
      split at h
      next => simp at h
      next short =>
        rw [← Nat.add_assoc, throughLink_steps _ at' target some_left, ← List.append_assoc] at h
        exact .through here free named (Nat.not_lt.1 short) found freeLink
          (ih (get?_start here target) h)

end Course

/-- Whether a path takes a route wherever it can be followed. No link stands on the names of the
route or anywhere below its end. -/
structure Aims (w : World) (avoided : Address) (p : Path) (r : Route) : Prop where
  links : r.links ≤ linkLimit
  course : Course w avoided r.links (start w.home p) p.steps r.base r.names
  noLink : ∀ front target, front <+: r.names →
    w.get? (front.reverse ++ r.base) ≠ some (.link target)
  below : ∀ b target, w.get? (b ++ r.address) ≠ some (.link target)

theorem Takes.aims (h : w.Takes avoided p r) : w.Aims avoided p r :=
  ⟨h.links, h.way.course, h.noLink, h.below⟩

namespace Aims

theorem keeps (h : w.Aims avoided p r) (kept : Keeps avoided w w') : w'.Aims avoided p r := by
  refine ⟨h.links, ?_, ?_, ?_⟩
  · rw [kept.home]
    exact h.course.keeps kept
  · exact fun front target hfront found => h.noLink front target hfront (kept.noLink _ _ found)
  · exact fun b target found => h.below b target (kept.noLink _ _ found)

/-- The path of a name in the folder of a path takes the route into it. -/
theorem join (h : w.Aims avoided p r) (hname : isName name = true) :
    w.Aims avoided (p.join ⟨name⟩) (r.into name) := by
  refine ⟨h.links, ?_, ?_, ?_⟩
  · rw [Takes.start_join w p hname, Path.steps_join_name hname]
    exact h.course.append (by simpa using hname)
  · exact fun front target hfront => noLink_into h.noLink h.below target hfront
  · intro b target
    simpa using h.below (b ++ [name]) target

/-- A path takes its route when a path leads anywhere that goes on from it. -/
theorem takes_of_locate (h : w.Aims avoided p r) (tree : w.IsTree)
    (steps : q.steps = p.steps ++ tail) (firm : isFirm tail = true)
    (absolute : q.isAbsolute = p.isAbsolute) (firmEnd : isFirm (pieces q.bytes) = true)
    (located : w.locate follow q = .ok a) : w.Takes avoided p r := by
  have nonempty : q.bytes ≠ [] := by
    intro empty
    simp [empty, pieces, isFirm, isIdle] at firmEnd
  have usable := isUsable_of_locate nonempty located (by simp) (by simp)
  have links : linkLimit = linkLimit - r.links + r.links := (Nat.sub_add_cancel h.links).symm
  rw [locate_eq follow usable nonempty, walk_stepsOf linkLimit firmEnd, ← Path.steps, steps, start,
    absolute, ← start, links] at located
  exact ⟨h.links, h.course.way tree (get?_start tree.home p) firm _ located, h.noLink, h.below⟩

theorem takes_of_join (h : w.Aims avoided p r) (tree : w.IsTree) (hname : isName name = true)
    (located : w.locate follow (p.join ⟨name⟩) = .ok a) : w.Takes avoided p r :=
  h.takes_of_locate tree (Path.steps_join_name hname p) (by simp [isFirm, isIdle_of_isName hname])
    (Path.isAbsolute_join p (Path.isAbsolute_of_isName hname)) (Path.isFirm_pieces_join hname p)
    located

/-- Where a path does not take its route, the paths of names in its folder lead nowhere. -/
theorem takes_or_nowhere (h : w.Aims avoided p r) (tree : w.IsTree) :
    w.Takes avoided p r ∨ ∀ name follow a, isName name = true →
      w.locate follow (p.join ⟨name⟩) ≠ .ok a := by
  by_cases takes : w.Takes avoided p r
  · exact .inl takes
  · exact .inr fun _ _ _ hname located => takes (h.takes_of_join tree hname located)

theorem takes_of_join_join {last : Bytes} (h : w.Aims avoided p r) (tree : w.IsTree)
    (hname : isName name = true) (hlast : isName last = true)
    (located : w.locate follow ((p.join ⟨name⟩).join ⟨last⟩) = .ok a) : w.Takes avoided p r := by
  have steps : ((p.join ⟨name⟩).join ⟨last⟩).steps = p.steps ++ [name, last] := by
    rw [Path.steps_join_name hlast, Path.steps_join_name hname, List.append_assoc]
    rfl
  refine h.takes_of_locate tree steps (by simp [isFirm, isIdle_of_isName hlast]) ?_
    (Path.isFirm_pieces_join hlast _) located
  rw [Path.isAbsolute_join _ (Path.isAbsolute_of_isName hlast),
    Path.isAbsolute_join p (Path.isAbsolute_of_isName hname)]

end Aims

end Mutagenesis.Files.World
