import Mutagenesis.Proofs.Files.Changes
import Mutagenesis.Proofs.Files.Walk

/-!
# Routes

A path takes a route when its way through folders and links ends at a folder and the names that are
left lead on from there, past no link. Paths of files in its folder then lead to addresses below the
end of the route, and making the folders of such a path makes folders on the route alone.
-/
namespace Mutagenesis.Files

/-- Where a path leads: through so many links to a folder, and from there on along names. -/
structure Route where
  links : Nat
  base : Address
  names : List Bytes
  deriving DecidableEq

namespace Route

/-- The address at which a route ends. -/
def address (r : Route) : Address := r.names.reverse ++ r.base

/-- The route that goes on by a name. -/
def into (r : Route) (name : Bytes) : Route := { r with names := r.names ++ [name] }

@[simp] theorem address_into (r : Route) (name : Bytes) :
    (r.into name).address = name :: r.address := by
  simp [address, into]

end Route

variable {w w' : World} {avoided a : Address} {p q : Path} {r : Route} {name : Bytes}
  {follow : Bool}

namespace World

/-- Whether a path takes a route on which nothing stands at or below the address to avoid. No link
stands on the names of the route or anywhere below its end. -/
structure Takes (w : World) (avoided : Address) (p : Path) (r : Route) : Prop where
  links : r.links ≤ linkLimit
  way : Way w avoided r.links (start w.home p) p.steps r.base r.names
  noLink : ∀ front target, front <+: r.names →
    w.get? (front.reverse ++ r.base) ≠ some (.link target)
  below : ∀ b target, w.get? (b ++ r.address) ≠ some (.link target)

/-- Where no link stands on the names of a route or below its end, none stands on the names of the
route into what is there. -/
theorem noLink_into {front : List Bytes} (noLink : ∀ front target, front <+: r.names →
      w.get? (front.reverse ++ r.base) ≠ some (.link target))
    (below : ∀ b target, w.get? (b ++ r.address) ≠ some (.link target)) (target : Path)
    (hfront : front <+: (r.into name).names) :
    w.get? (front.reverse ++ r.base) ≠ some (.link target) := by
  obtain rfl | before := List.prefix_concat_iff.1 hfront
  · simpa [Route.address] using below [name] target
  · exact noLink front target before

namespace Takes

/-- A path of names takes a route where there are no links. -/
theorem of_names (hr : r = ⟨0, start w.home p, p.steps⟩) (tree : w.IsTree)
    (noLinks : w.hasNoLinks = true) (named : ∀ name ∈ r.names, isName name = true)
    (free : ¬ avoided <:+ r.base) : w.Takes avoided p r := by
  have here : w.get? r.base = some .folder := by
    rw [hr, start]
    split
    · rfl
    · exact tree.home
  refine ⟨by simp [hr], ?_, fun _ target _ => get?_ne_link noLinks _ target,
    fun _ target => get?_ne_link noLinks _ target⟩
  subst hr
  exact .arrived here free named

/-- A route lasts as long as the folders and links on it do. -/
theorem keeps (h : w.Takes avoided p r) (kept : Keeps avoided w w') : w'.Takes avoided p r := by
  refine ⟨h.links, ?_, ?_, ?_⟩
  · rw [kept.home]
    exact h.way.mono kept.folders kept.linked
  · exact fun front target hfront found => h.noLink front target hfront (kept.noLink _ _ found)
  · exact fun b target found => h.below b target (kept.noLink _ _ found)

theorem start_join (w : World) (p : Path) (hname : isName name = true) :
    start w.home (p.join ⟨name⟩) = start w.home p := by
  rw [start, start, Path.isAbsolute_join p (Path.isAbsolute_of_isName hname)]

/-- The path of a name in the folder of a path takes the route into it. -/
theorem join (h : w.Takes avoided p r) (hname : isName name = true) :
    w.Takes avoided (p.join ⟨name⟩) (r.into name) := by
  refine ⟨h.links, ?_, ?_, ?_⟩
  · rw [start_join w p hname, Path.steps_join_name hname]
    exact h.way.append (by simpa using hname)
  · exact fun front target hfront => noLink_into h.noLink h.below target hfront
  · intro b target
    simpa using h.below (b ++ [name]) target

end Takes

end World

/-! ## Paths below the end of a route -/

/-- Whether a path is short enough and holds no zero byte. -/
structure IsUsable (p : Path) : Prop where
  noZero : 0 ∉ p.bytes
  short : p.bytes.length < pathLimit

/-- The beginning of a usable path is usable. -/
theorem IsUsable.of_isPrefix (h : IsUsable p) (within : q.bytes <+: p.bytes) : IsUsable q :=
  ⟨fun zero => h.noZero (within.subset zero), within.length_le.trans_lt h.short⟩

/-- A path stays usable when its last name is replaced by one that is no longer. -/
theorem IsUsable.rename {name' : Bytes} (h : IsUsable (p.join ⟨name⟩))
    (hname : isName name = true) (hname' : isName name' = true) (noZero : 0 ∉ name')
    (short : name'.length ≤ name.length) : IsUsable (p.join ⟨name'⟩) := by
  obtain ⟨before, fits⟩ := h
  rw [Path.join_eq p (Path.isAbsolute_of_isName hname)] at before fits
  rw [Path.join_eq p (Path.isAbsolute_of_isName hname')]
  simp only [List.mem_append, not_or, List.length_append] at before fits
  refine ⟨?_, ?_⟩
  · simp [before.1, noZero]
  · simp only [List.length_append]
    omega

namespace World

theorem locate_eq (follow : Bool) (h : IsUsable p) (nonempty : p.bytes ≠ []) :
    w.locate follow p =
      w.walk follow (w.throughLink follow linkLimit) (start w.home p) (pieces p.bytes) := by
  simp [locate, h.noZero, nonempty, Nat.not_le.2 h.short]

theorem isUsable_of_locate {found : Except Fault Address} (nonempty : p.bytes ≠ [])
    (located : w.locate follow p = found) (noZero : found ≠ .error .zeroByte)
    (short : found ≠ .error .nameTooLong) : IsUsable p := by
  refine ⟨?_, ?_⟩
  · intro zero
    exact noZero (by simp [← located, locate, zero])
  · apply Decidable.byContradiction
    intro long
    by_cases zero : 0 ∈ p.bytes
    · exact noZero (by simp [← located, locate, zero])
    · exact short (by simp [← located, locate, zero, nonempty, Nat.not_lt.1 long])

theorem bytes_join_ne_nil (p : Path) (hname : isName name = true) : (p.join ⟨name⟩).bytes ≠ [] := by
  rw [Path.join_eq p (Path.isAbsolute_of_isName hname)]
  simp [ne_nil_of_isName hname]

namespace Takes

/-- Where a path leads that goes on from a route by a name. -/
theorem locate_of_steps (h : w.Takes avoided p r) (hname : isName name = true) (follow : Bool)
    (usable : IsUsable q) (nonempty : q.bytes ≠ []) (steps : q.steps = p.steps ++ [name])
    (absolute : q.isAbsolute = p.isAbsolute) (firmEnd : isFirm (pieces q.bytes) = true) :
    w.locate follow q = w.alongNames name r.base r.names := by
  have links : linkLimit = linkLimit - r.links + r.links := (Nat.sub_add_cancel h.links).symm
  have firm : isFirm [name] = true := by simp [isFirm, isIdle_of_isName hname]
  rw [locate_eq follow usable nonempty, walk_stepsOf linkLimit firmEnd, ← Path.steps, steps, start,
    absolute, ← start, links, h.way.walk_append _ firm]
  exact walk_names h.way.named hname h.noLink fun _ target => by
    simpa [Route.address] using h.below [name] target

/-- Where the path of a name in the folder of a route leads. -/
theorem locate_join (h : w.Takes avoided p r) (hname : isName name = true) (follow : Bool)
    (usable : IsUsable (p.join ⟨name⟩)) :
    w.locate follow (p.join ⟨name⟩) = w.alongNames name r.base r.names :=
  h.locate_of_steps hname follow usable (bytes_join_ne_nil p hname) (Path.steps_join_name hname p)
    (Path.isAbsolute_join p (Path.isAbsolute_of_isName hname)) (Path.isFirm_pieces_join hname p)

/-- The path of a name in the folder of a route leads there when the route leads to a folder. -/
theorem locate_join_eq_ok (h : w.Takes avoided p r) (hname : isName name = true) :
    w.locate follow (p.join ⟨name⟩) = .ok a ↔ IsUsable (p.join ⟨name⟩) ∧
      w.Passes r.base r.names ∧ name.length ≤ nameLimit ∧ a = name :: r.address := by
  constructor
  · intro located
    have usable := isUsable_of_locate (bytes_join_ne_nil p hname) located (by simp) (by simp)
    rw [h.locate_join hname follow usable, alongNames_eq_ok] at located
    exact ⟨usable, located⟩
  · rintro ⟨usable, located⟩
    rw [h.locate_join hname follow usable, alongNames_eq_ok]
    exact located

/-- Nothing stands at or below a name in the folder of a route that is missing. -/
theorem get?_eq_none_of_missing (h : w.Takes avoided p r)
    (supported : w.IsSupported (name :: r.address)) (hname : isName name = true)
    (missing : w.locate follow (p.join ⟨name⟩) = .error .missing) (b : Address) :
    w.get? (b ++ name :: r.address) = none := by
  have usable := isUsable_of_locate (bytes_join_ne_nil p hname) missing (by simp) (by simp)
  rw [h.locate_join hname follow usable] at missing
  obtain ⟨front, ⟨rest, hrest⟩, found⟩ := missing_of_alongNames missing
  have above : front.reverse ++ r.base <:+ name :: r.address :=
    ⟨name :: rest.reverse, by simp [Route.address, ← hrest]⟩
  exact supported _ above found b

end Takes

/-! ## Operations -/

theorem write_eq_ok {content : Bytes} (h : w.write p content = .ok w') :
    ∃ a, w.locate true p = .ok a ∧ w.get? a ≠ some .folder ∧ w' = w.put a (.file content) := by
  cases located : w.locate true p with
  | error fault => simp [write, located, bind, Except.bind] at h
  | ok a =>
      refine ⟨a, rfl, ?_⟩
      simp only [write, located, bind, Except.bind] at h
      split at h
      next => simp [throw, throwThe, MonadExceptOf.throw] at h
      next noFolder => exact ⟨noFolder, (Except.ok.inj h).symm⟩

theorem removeFile_eq_ok (h : w.removeFile p = .ok w') :
    ∃ a, w.locate false p = .ok a ∧ w.get? a ≠ some .folder ∧ w' = w.erase a := by
  cases located : w.locate false p with
  | error fault => simp [removeFile, located, bind, Except.bind] at h
  | ok a =>
      refine ⟨a, rfl, ?_⟩
      simp only [removeFile, located, bind, Except.bind] at h
      split at h
      next => simp [throw, throwThe, MonadExceptOf.throw] at h
      next noFolder found =>
          refine ⟨?_, (Except.ok.inj h).symm⟩
          rw [found]
          exact fun same => noFolder (Option.some.inj same)
      next => simp [throw, throwThe, MonadExceptOf.throw] at h

/-- What is removed with a name in the folder of a route is the tree of that name. -/
theorem Takes.removeTree_eq_ok (h : w.Takes avoided p r) (hname : isName name = true)
    (removed : w.removeTree (p.join ⟨name⟩) = .ok w') : w' = w.eraseTree (name :: r.address) := by
  cases located : w.locate false (p.join ⟨name⟩) with
  | error fault => simp [removeTree, located, bind, Except.bind] at removed
  | ok a =>
      obtain rfl := ((h.locate_join_eq_ok hname).1 located).2.2.2
      simp only [removeTree, located, bind, Except.bind] at removed
      split at removed
      next => exact (Except.ok.inj removed).symm
      next => simp [throw, throwThe, MonadExceptOf.throw] at removed
      next target found => exact absurd found (h.below [name] target)
      next => simp [throw, throwThe, MonadExceptOf.throw] at removed

/-- Nothing stands at or below a name that was missing when it was to be removed. -/
theorem Takes.get?_eq_none_of_removeTree (h : w.Takes avoided p r)
    (supported : w.IsSupported (name :: r.address)) (hname : isName name = true)
    (missing : w.removeTree (p.join ⟨name⟩) = .error .missing) (b : Address) :
    w.get? (b ++ name :: r.address) = none := by
  cases located : w.locate false (p.join ⟨name⟩) with
  | error fault =>
      obtain rfl : fault = .missing := by
        simpa [removeTree, located, bind, Except.bind] using missing
      exact h.get?_eq_none_of_missing supported hname located b
  | ok a =>
      obtain rfl := ((h.locate_join_eq_ok hname).1 located).2.2.2
      simp only [removeTree, located, bind, Except.bind] at missing
      split at missing
      next => simp [pure, Except.pure] at missing
      next => simp [throw, throwThe, MonadExceptOf.throw] at missing
      next => simp [pure, Except.pure] at missing
      next free => exact supported _ List.suffix_rfl free b

/-! ## Made folders -/

theorem makeFolder_eq_ok (h : w.makeFolder p = .ok w') :
    ∃ a, w.locate false p = .ok a ∧ w.get? a = none ∧ w' = w.put a .folder := by
  cases located : w.locate false p with
  | error fault => simp [makeFolder, located, bind, Except.bind] at h
  | ok a =>
      cases found : w.get? a with
      | some e => simp [makeFolder, located, found, bind, Except.bind, throw, throwThe,
          MonadExceptOf.throw] at h
      | none =>
          simp only [makeFolder, located, found, bind, Except.bind, pure, Except.pure,
            Except.ok.injEq] at h
          exact ⟨a, rfl, found, h.symm⟩

/-- What each made folder keeps is kept when a folder is made with those that it needs. -/
theorem makeFirst_induction {I : World → Prop} {ps : List Path}
    (step : ∀ {w w' p}, p ∈ ps → p.bytes ≠ [] → I w → w.makeFolder p = .ok w' → I w')
    (hw : I w) : I (w.makeFirst ps).2 := by
  induction ps generalizing w with
  | nil => exact hw
  | cons p above ih =>
      rw [makeFirst]
      by_cases empty : p.bytes = []
      · rwa [if_pos empty]
      rw [if_neg empty]
      have first : ∀ {w w'}, I w → w.makeFolder p = .ok w' → I w' :=
        fun hw made => step List.mem_cons_self empty hw made
      cases made : w.makeFolder p with
      | ok w' => exact first hw made
      | error fault =>
          cases fault with
          | missing =>
              have kept : I (w.makeFirst above).2 :=
                ih (fun hp => step (List.mem_cons_of_mem p hp)) hw
              rcases hrest : w.makeFirst above with ⟨_ | ⟨⟩, w₁⟩
              · simpa [hrest] using kept
              · rw [hrest] at kept
                cases again : w₁.makeFolder p with
                | ok w₂ => simpa [again] using first kept again
                | error fault => simpa [again] using kept
          | _ => exact hw

theorem get?_makeFolders {e : Entry} (p : Path) (found : w.get? a = some e) :
    (w.makeFolders p).2.get? a = some e := by
  refine makeFirst_induction (I := fun w => w.get? a = some e) (fun _ _ found made => ?_) found
  obtain ⟨b, -, free, rfl⟩ := makeFolder_eq_ok made
  exact get?_put_of_free free found

theorem keeps_makeFolders (w : World) (p : Path) : Keeps avoided w (w.makeFolders p).2 := by
  refine makeFirst_induction (fun _ _ kept made => ?_) (.refl avoided w)
  obtain ⟨b, -, free, rfl⟩ := makeFolder_eq_ok made
  exact kept.trans (keeps_put (by simp [free]) (by simp [free]) (by simp))

/-- A path whose steps are idle leads to where it starts. -/
theorem walk_of_stepsOf_eq_nil {onLink : Address → Path → List Bytes → Except Fault Address}
    {ps : List Bytes} (h : stepsOf ps = []) : w.walk follow onLink a ps = .ok a := by
  induction ps with
  | nil => rfl
  | cons p ps ih =>
      cases idle : isIdle p with
      | true => simpa [walk, idle] using ih (by simpa [stepsOf, idle] using h)
      | false => simp [stepsOf, idle] at h

/-- A path along the steps of a route makes a folder on the route, if it makes one. -/
theorem Takes.makeFolder_eq_ok (h : w.Takes avoided p r)
    (along : q.LeadsAlong p.isAbsolute p.steps) (nonempty : q.bytes ≠ [])
    (made : w.makeFolder q = .ok w') :
    ∃ front, front <+: r.names ∧ w.get? (front.reverse ++ r.base) = none ∧
      w' = w.put (front.reverse ++ r.base) .folder := by
  obtain ⟨a, located, free, rfl⟩ := World.makeFolder_eq_ok made
  have sameStart : start w.home q = start w.home p := by
    rw [start, start, along.start.resolve_left nonempty]
  have usable : IsUsable q :=
    isUsable_of_locate nonempty located (by simp) (by simp)
  rw [locate_eq false usable nonempty, sameStart] at located
  obtain idle | firm := along.firm
  · rw [walk_of_stepsOf_eq_nil idle] at located
    obtain rfl := Except.ok.inj located
    simp [h.way.here] at free
  · rw [walk_stepsOf linkLimit firm] at located
    obtain ⟨e, found⟩ | ⟨front, hfront, rfl⟩ :=
      h.way.entry_of_walk h.noLink along.steps linkLimit located
    · simp [found] at free
    · exact ⟨front, hfront, free, rfl⟩

/-- What is kept by making one folder on a route is kept by making the folders of a path along
it. -/
theorem makeFolders_induction {I : World → Prop} (along : q.LeadsAlong p.isAbsolute p.steps)
    (takes : ∀ {w}, I w → w.Takes avoided p r)
    (step : ∀ {w front}, I w → front <+: r.names → w.get? (front.reverse ++ r.base) = none →
      I (w.put (front.reverse ++ r.base) .folder))
    (hw : I w) : I (w.makeFolders q).2 := by
  refine makeFirst_induction ?_ hw
  intro w w' q' hq' nonempty hw made
  obtain ⟨front, hfront, free, rfl⟩ := (takes hw).makeFolder_eq_ok
    (Path.leadsAlong_of_mem_ancestors along hq') nonempty made
  exact step hw hfront free

/-- Whether a world has come of another by making folders on a route. -/
structure Paves (avoided : Address) (r : Route) (w w' : World) : Prop where
  keeps : Keeps avoided w w'
  same : ∀ a, (∀ front, front <+: r.names → a ≠ front.reverse ++ r.base) → w'.get? a = w.get? a

namespace Paves

theorem refl (avoided : Address) (r : Route) (w : World) : Paves avoided r w w :=
  ⟨.refl avoided w, fun _ _ => rfl⟩

theorem put {front : List Bytes} (h : Paves avoided r w w') (hfront : front <+: r.names)
    (free : w'.get? (front.reverse ++ r.base) = none) :
    Paves avoided r w (w'.put (front.reverse ++ r.base) .folder) := by
  have noFolder : w'.get? (front.reverse ++ r.base) ≠ some .folder := by simp [free]
  refine ⟨h.keeps.trans (keeps_put noFolder (by simp [free]) (by simp)), fun a outside => ?_⟩
  rw [get?_put _ _ _ (ne_nil_of_get? noFolder), if_neg (outside front hfront), h.same a outside]

end Paves

/-- Making the folders of a path along a route makes folders on the route alone. -/
theorem Takes.paves (takes : w.Takes avoided p r)
    (along : q.LeadsAlong p.isAbsolute p.steps) : Paves avoided r w (w.makeFolders q).2 :=
  makeFolders_induction along (fun h => takes.keeps h.keeps) Paves.put (.refl avoided r w)

end World

end Mutagenesis.Files
