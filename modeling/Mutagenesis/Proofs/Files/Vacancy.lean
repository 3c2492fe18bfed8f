import Mutagenesis.Proofs.Files.Making

/-!
# Paths to where nothing stands

A path may lead to a name that nothing in a folder has, and further names may follow it. Such a path
leads along folders and links that are there and then along names of its own, so that all that is
missing can be made: `Leads` says this, and making folders on the path keeps it.
-/
namespace Mutagenesis.Files.World

/-- Whether a path leads to an address at which nothing stands. It does so at once, or it goes on by
a name from such a path, in whatever spelling of it. -/
inductive Vacant (w : World) : Path → Address → Prop
  | here {p : Path} {name : Bytes} {a : Address} (named : isName name = true)
      (located : w.locate false (p.join ⟨name⟩) = .ok a) (free : w.get? a = none) :
      Vacant w (p.join ⟨name⟩) a
  | inside {p q : Path} {name : Bytes} {a : Address} (above : Vacant w p a)
      (steps : q.steps = p.steps) (absolute : q.isAbsolute = p.isAbsolute)
      (named : isName name = true) (short : name.length ≤ nameLimit)
      (usable : IsUsable (q.join ⟨name⟩)) : Vacant w (q.join ⟨name⟩) (name :: a)

variable {w w' : World} {avoided avoided' at' base a : Address} {links n : Nat}
  {ss names ps front pre : List Bytes} {p q : Path} {r : Route} {name last : Bytes}
  {follow : Bool}

/-! ## Ways to a free name -/

/-- A way avoids what lies below an address when it avoids the address. -/
theorem Way.avoid (way : Way w avoided links at' ss base names)
    (sub : ∀ b, avoided' <:+ b → avoided <:+ b) : Way w avoided' links at' ss base names := by
  induction way with
  | arrived here free named => exact .arrived here (fun h => free (sub _ h)) named
  | up here free up _ ih => exact .up here (fun h => free (sub _ h)) up ih
  | into here free named short _ ih => exact .into here (fun h => free (sub _ h)) named short ih
  | through here free named short found freeLink _ ih =>
      exact .through here (fun h => free (sub _ h)) named short found
        (fun h => freeLink (sub _ h)) ih

/-- Whether steps lead through so many links to the folder of an address that they do not meet. -/
structure Arrives (w : World) (a : Address) (last : Bytes) (at' : Address) (ps : List Bytes)
    (links : Nat) (base : Address) : Prop where
  way : Way w a links at' ps base []
  address : a = last :: base
  short : last.length ≤ nameLimit

/-- Folders are not below a free address. -/
theorem IsTree.not_suffix_of_free (tree : w.IsTree) (free : w.get? a = none)
    (folder : w.get? base = some .folder) : ¬ a <:+ base := by
  rintro ⟨above, rfl⟩
  simp [tree.get?_of_append folder] at free

section Walk

variable {onLink : Address → Path → List Bytes → Except Fault Address}

/-- Where a walk leads to a free name, the steps before the name are a way. -/
theorem IsTree.arrives_of_walk (tree : w.IsTree) (free : w.get? a = none)
    (hlast : isName last = true)
    (onward : ∀ {at' target rest}, w.get? at' = some .folder →
      (∀ piece ∈ rest, isIdle piece = false ∧ slash ∉ piece) →
      onLink at' target (rest ++ [last]) = .ok a →
      ∃ links base, links < n ∧
        Arrives w a last (start at' target) (target.steps ++ rest) links base)
    (proper : ∀ piece ∈ ps, isIdle piece = false ∧ slash ∉ piece)
    (here : w.get? at' = some .folder)
    (h : w.walk false onLink at' (ps ++ [last]) = .ok a) :
    ∃ links base, links ≤ n ∧ Arrives w a last at' ps links base := by
  induction ps generalizing at' with
  | nil =>
      have outside := tree.not_suffix_of_free free here
      simp only [List.nil_append, walk, isIdle_of_isName hlast, isUp_of_isName hlast,
        List.all_nil, List.isEmpty_nil, Bool.not_false, Bool.and_self, Bool.false_eq_true, if_true,
        if_false] at h
      split at h
      next => simp at h
      next short =>
        obtain rfl : last :: at' = a := by
          split at h <;> exact Except.ok.inj h
        exact ⟨0, at', Nat.zero_le n, .arrived here outside (by simp), rfl, Nat.not_lt.1 short⟩
  | cons piece rest ih =>
      have outside := tree.not_suffix_of_free free here
      rw [List.forall_mem_cons] at proper
      obtain ⟨⟨solid, noSlash⟩, proper⟩ := proper
      have firm : isFirm (rest ++ [last]) = true := by simp [isFirm, isIdle_of_isName hlast]
      have more : (rest ++ [last]).isEmpty = false := by simp
      rw [List.cons_append, walk] at h
      simp only [solid, all_isEmpty_eq_false firm, more, Bool.false_and, Bool.false_eq_true,
        if_false] at h
      split at h
      next up =>
        obtain ⟨links, base, few, way, address, short⟩ := ih proper (tree.get?_above here) h
        exact ⟨links, base, few, .up here outside up way, address, short⟩
      next up =>
        have named : isName piece = true := isName_iff.2 ⟨⟨solid, by simpa using up⟩, noSlash⟩
        split at h
        next => simp at h
        next fits =>
          split at h
          next => simp at h
          next found =>
            obtain ⟨links, base, few, way, address, short⟩ := ih proper found h
            exact ⟨links, base, few, .into here outside named (Nat.not_lt.1 fits) way, address,
              short⟩
          next => simp at h
          next target found =>
            obtain ⟨links, base, few, way, address, short⟩ := onward here proper h
            have past : ¬ a <:+ piece :: at' := by
              intro within
              obtain rfl | within := List.suffix_cons_iff.1 within
              · simp [found] at free
              · exact outside within
            exact ⟨links + 1, base, few,
              .through here outside named (Nat.not_lt.1 fits) found past way, address, short⟩

theorem IsTree.arrives_of_throughLink (tree : w.IsTree) (free : w.get? a = none)
    (hlast : isName last = true) (n : Nat) {target : Path} {rest : List Bytes}
    (here : w.get? at' = some .folder)
    (proper : ∀ piece ∈ rest, isIdle piece = false ∧ slash ∉ piece)
    (h : w.throughLink false n at' target (rest ++ [last]) = .ok a) :
    ∃ links base, links < n ∧
      Arrives w a last (start at' target) (target.steps ++ rest) links base := by
  induction n generalizing at' target rest with
  | zero => simp [throughLink] at h
  | succ n ih =>
      have firm : isFirm (rest ++ [last]) = true := by simp [isFirm, isIdle_of_isName hlast]
      rw [throughLink_steps n at' target firm, ← List.append_assoc] at h
      have proper : ∀ piece ∈ target.steps ++ rest, isIdle piece = false ∧ slash ∉ piece := by
        intro piece hpiece
        obtain hpiece | hpiece := List.mem_append.1 hpiece
        · obtain ⟨inTarget, solid⟩ := List.mem_filter.1 hpiece
          exact ⟨by simpa using solid, slash_notMem_of_mem_pieces inTarget⟩
        · exact proper piece hpiece
      obtain ⟨links, base, few, arrives⟩ :=
        tree.arrives_of_walk free hlast ih proper (get?_start here target) h
      exact ⟨links, base, Nat.lt_succ_of_le few, arrives⟩

end Walk

/-- Where the path of a name leads to a free address, the path before the name is a way. -/
theorem IsTree.arrives_of_locate (tree : w.IsTree) (free : w.get? a = none)
    (hlast : isName last = true) (h : w.locate false (p.join ⟨last⟩) = .ok a) :
    ∃ links base, links ≤ linkLimit ∧
      Arrives w a last (start w.home (p.join ⟨last⟩)) p.steps links base := by
  have nonempty := bytes_join_ne_nil p hlast
  have usable := isUsable_of_locate nonempty h (by simp) (by simp)
  rw [locate_eq false usable nonempty, walk_stepsOf linkLimit (Path.isFirm_pieces_join hlast p),
    ← Path.steps, Path.steps_join_name hlast] at h
  refine tree.arrives_of_walk free hlast (tree.arrives_of_throughLink free hlast linkLimit) ?_
    (get?_start tree.home _) h
  intro piece hpiece
  obtain ⟨inPath, solid⟩ := List.mem_filter.1 hpiece
  exact ⟨by simpa using solid, slash_notMem_of_mem_pieces inPath⟩

/-! ## Paths that lead on along names -/

/-- Whether a path leads along folders and links that are there to the base of a route and from
there on along the names of the route, of which those before some point are of folders and those
after it are missing. -/
structure Leads (w : World) (p : Path) (front : List Bytes) (r : Route) : Prop where
  tree : w.IsTree
  usable : IsUsable p
  firm : isFirm (pieces p.bytes) = true
  links : r.links ≤ linkLimit
  steps : p.steps = front ++ r.names
  way : Way w r.address r.links (start w.home p) front r.base []
  some_name : r.names ≠ []
  proper : ∀ name ∈ r.names, isName name = true ∧ name.length ≤ nameLimit
  passable : ∀ pre, pre <+: r.names →
    w.get? (pre.reverse ++ r.base) = none ∨ w.get? (pre.reverse ++ r.base) = some .folder
  below : ∀ b target, w.get? (b ++ r.address) ≠ some (.link target)

/-- A path to where nothing stands leads on along names. -/
theorem Vacant.leads (vacant : w.Vacant p a) (tree : w.IsTree) :
    ∃ front r, r.address = a ∧ w.get? a = none ∧ w.Leads p front r := by
  induction vacant with
  | @here p name a named located free =>
      obtain ⟨links, base, few, way, rfl, short⟩ := tree.arrives_of_locate free named located
      have usable := isUsable_of_locate (bytes_join_ne_nil p named) located (by simp) (by simp)
      refine ⟨p.steps, ⟨links, base, [name]⟩, rfl, free, tree, usable,
        Path.isFirm_pieces_join named p, few, Path.steps_join_name named p, way, by simp,
        by simpa using ⟨named, short⟩, ?_, ?_⟩
      · intro pre hpre
        obtain rfl | ⟨rfl⟩ : pre = [name] ∨ pre = [] := by
          simpa using List.prefix_concat_iff.1 (show pre <+: [] ++ [name] from hpre)
        · exact .inl free
        · exact .inr way.here_base
      · intro b target found
        exact absurd (found.symm.trans (tree.get?_append_eq_none free b)) (by simp)
  | @inside p q name a _ steps absolute named short usable ih =>
      obtain ⟨front, r, rfl, free, leads⟩ := ih
      have freeName : w.get? (name :: r.address) = none :=
        tree.get?_append_eq_none free [name]
      have sameStart : start w.home (q.join ⟨name⟩) = start w.home p := by
        rw [Takes.start_join w q named, start, start, absolute]
      refine ⟨front, r.into name, Route.address_into r name, freeName, tree, usable,
        Path.isFirm_pieces_join named q, leads.links, ?_, ?_, by simp [Route.into], ?_, ?_, ?_⟩
      · rw [Path.steps_join_name named, steps, leads.steps, List.append_assoc]
        rfl
      · rw [sameStart, Route.address_into]
        exact leads.way.avoid fun b within => (List.suffix_cons name _).trans within
      · intro other hother
        obtain hother | rfl := List.mem_append.1 hother |>.imp_right List.mem_singleton.1
        · exact leads.proper other hother
        · exact ⟨named, short⟩
      · intro pre hpre
        obtain rfl | hpre := List.prefix_concat_iff.1 hpre
        · rw [List.reverse_append]
          exact .inl freeName
        · exact leads.passable pre hpre
      · intro b target found
        rw [Route.address_into] at found
        exact absurd (found.symm.trans (tree.get?_append_eq_none freeName b)) (by simp)

namespace Leads

theorem takes (h : w.Leads p front r) : w.Takes r.address p r := by
  refine ⟨h.links, ?_, fun pre target hpre found => ?_, h.below⟩
  · rw [h.steps]
    exact h.way.append fun name hname => (h.proper name hname).1
  · obtain free | folder := h.passable pre hpre
    · simp [free] at found
    · simp [folder] at found

/-- Where the path of the first names leads. -/
theorem locate_of_prefix (h : w.Leads p front r) (hpre : pre ++ [last] <+: r.names)
    (usable : IsUsable q) (steps : q.steps = front ++ (pre ++ [last]))
    (absolute : q.isAbsolute = p.isAbsolute) (firm : isFirm (pieces q.bytes) = true)
    (follow : Bool) : w.locate follow q = w.alongNames last r.base pre := by
  have hlast : isName last = true := (h.proper last (hpre.subset (by simp))).1
  have hnames : pre <+: r.names := (List.prefix_append pre [last]).trans hpre
  have nonempty : q.bytes ≠ [] := by
    intro empty
    simp [empty, pieces, isFirm, isIdle] at firm
  have links : linkLimit = linkLimit - r.links + r.links := (Nat.sub_add_cancel h.links).symm
  have firmEnd : isFirm (pre ++ [last]) = true := by simp [isFirm, isIdle_of_isName hlast]
  rw [locate_eq follow usable nonempty, walk_stepsOf linkLimit firm, ← Path.steps, steps, start,
    absolute, ← start, links, h.way.walk_append _ firmEnd, List.nil_append]
  have noLink : ∀ more target, more <+: r.names →
      w.get? (more.reverse ++ r.base) ≠ some (.link target) := h.takes.noLink
  refine walk_names (fun name hname => (h.proper name (hnames.subset hname)).1) hlast
    (fun more target hmore => noLink more target (hmore.trans hnames)) fun _ target => ?_
  simpa using noLink (pre ++ [last]) target hpre

/-- Making a folder of the path keeps it a path that leads on. -/
theorem makeFolder (h : w.Leads p front r) (along : q.LeadsAlong p.isAbsolute p.steps)
    (nonempty : q.bytes ≠ []) (made : w.makeFolder q = .ok w') : w'.Leads p front r := by
  have tree := h.tree.makeFolder made
  obtain ⟨pre, hpre, free, rfl⟩ := h.takes.makeFolder_eq_ok along nonempty made
  have kept : Keeps r.address w (w.put (pre.reverse ++ r.base) .folder) :=
    keeps_put (by simp [free]) (by simp [free]) (by simp)
  refine ⟨tree, h.usable, h.firm, h.links, h.steps, ?_, h.some_name, h.proper,
    fun other hother => ?_, fun b target found => h.below b target (kept.noLink _ _ found)⟩
  · rw [kept.home]
    exact h.way.mono kept.folders kept.linked
  · rw [get?_put _ _ _ (ne_nil_of_get? (show w.get? (pre.reverse ++ r.base) ≠ some .folder by
      simp [free]))]
    split
    · exact .inr rfl
    · exact h.passable other hother

theorem makeFirst (h : w.Leads p front r) {qs : List Path}
    (along : ∀ q ∈ qs, q.LeadsAlong p.isAbsolute p.steps) : (w.makeFirst qs).2.Leads p front r :=
  makeFirst_induction (I := fun w => w.Leads p front r)
    (fun hq nonempty h made => h.makeFolder (along _ hq) nonempty made) h

end Leads

/-- Names lead to nothing when some of them are of folders and the rest is missing. -/
theorem alongNames_eq_missing (here : w.get? at' = some .folder)
    (passable : ∀ pre, pre <+: names →
      w.get? (pre.reverse ++ at') = none ∨ w.get? (pre.reverse ++ at') = some .folder)
    (short : ∀ name ∈ names, name.length ≤ nameLimit)
    (missing : w.get? (names.reverse ++ at') = none) :
    w.alongNames last at' names = .error .missing := by
  induction names generalizing at' with
  | nil => simp [here] at missing
  | cons name rest ih =>
      rw [List.forall_mem_cons] at short
      rw [alongNames, if_neg (Nat.not_lt.2 short.1)]
      have first : w.get? (name :: at') = none ∨ w.get? (name :: at') = some .folder := by
        simpa using passable [name] (by simp)
      obtain free | folder := first
      · simp [free]
      · have further : ∀ pre, pre <+: rest → w.get? (pre.reverse ++ name :: at') = none ∨
            w.get? (pre.reverse ++ name :: at') = some .folder := by
          intro pre hpre
          simpa using passable (name :: pre) (by simpa using hpre)
        simp [folder, ih folder further short.2 (by simpa using missing)]

namespace Leads

/-- A path along the first names leads to the last of them, or the folder for it is missing. -/
theorem locate_cases (h : w.Leads p front r) (hpre : pre ++ [last] <+: r.names)
    (usable : IsUsable q) (steps : q.steps = front ++ (pre ++ [last]))
    (absolute : q.isAbsolute = p.isAbsolute) (firm : isFirm (pieces q.bytes) = true) :
    (∀ follow, w.locate follow q = .ok (last :: (pre.reverse ++ r.base))) ∨
      (∀ follow, w.locate follow q = .error .missing) ∧
        w.get? (pre.reverse ++ r.base) = none := by
  have before : pre <+: r.names := (List.prefix_append pre [last]).trans hpre
  have short := fun name hname => (h.proper name (before.subset hname)).2
  simp only [h.locate_of_prefix hpre usable steps absolute firm]
  obtain missing | folder := h.passable pre before
  · exact .inr ⟨fun _ => alongNames_eq_missing h.way.here_base
      (fun more hmore => h.passable more (hmore.trans before)) short missing, missing⟩
  · exact .inl fun _ => alongNames_eq_ok.2 ⟨h.tree.passes folder short,
      (h.proper last (hpre.subset (by simp))).2, rfl⟩

/-- A path along the first names makes a folder, or finds it there, or misses the one above it. -/
theorem makeFolder_cases (h : w.Leads p front r) (hpre : pre ++ [last] <+: r.names)
    (usable : IsUsable q) (steps : q.steps = front ++ (pre ++ [last]))
    (absolute : q.isAbsolute = p.isAbsolute) (firm : isFirm (pieces q.bytes) = true) :
    (w.makeFolder q = .ok (w.put (last :: (pre.reverse ++ r.base)) .folder)) ∨
      (w.makeFolder q = .error .present ∧ w.isFolder q = true ∧
        w.get? (last :: (pre.reverse ++ r.base)) = some .folder) ∨
      w.makeFolder q = .error .missing ∧ w.get? (pre.reverse ++ r.base) = none := by
  obtain found | ⟨lost, missing⟩ := h.locate_cases hpre usable steps absolute firm
  · have there := h.passable (pre ++ [last]) hpre
    rw [List.reverse_append, List.reverse_singleton, List.singleton_append, List.cons_append]
      at there
    obtain free | there := there
    · refine .inl ?_
      simp [World.makeFolder, found, free, bind, Except.bind, pure, Except.pure]
    · refine .inr (.inl ⟨?_, ?_, there⟩)
      · simp [World.makeFolder, found, there, bind, Except.bind, throw, throwThe,
          MonadExceptOf.throw]
      · simp [isFolder, entryAt?, found, there, Except.toOption]
  · refine .inr (.inr ⟨?_, missing⟩)
    simp [World.makeFolder, lost, bind, Except.bind]

/-- The folders of a path along the first names can be made, with as many paths above it as there
are names. -/
theorem makeFirst_eq_ok (n : Nat) (h : w.Leads p front r) (hpre : pre <+: r.names)
    (some_name : pre ≠ []) (few : pre.length ≤ n) (usable : IsUsable q)
    (along : q.LeadsAlong p.isAbsolute p.steps) (steps : q.steps = front ++ pre) :
    (w.makeFirst (q.ancestorsUpTo n)).1 = .ok () ∧
      (w.makeFirst (q.ancestorsUpTo n)).2.get? (pre.reverse ++ r.base) = some .folder := by
  induction n generalizing w q pre with
  | zero => exact absurd (List.length_eq_zero_iff.1 (Nat.le_zero.1 few)) some_name
  | succ n ih =>
      obtain ⟨pre, last, rfl⟩ := List.eq_nil_or_concat pre |>.resolve_left some_name
      rw [List.concat_eq_append] at hpre few steps ⊢
      have some_step : q.steps ≠ [] := by simp [steps]
      have nonempty : q.bytes ≠ [] := by
        intro empty
        simp [Path.steps, empty, pieces, stepsOf, isIdle] at some_step
      have made {w₁ : World} (h₁ : w₁.Leads p front r) :=
        h₁.makeFolder_cases hpre usable steps (along.start.resolve_left nonempty)
          (along.firm.resolve_left some_step)
      have address : (pre ++ [last]).reverse ++ r.base = last :: (pre.reverse ++ r.base) := by simp
      rw [Path.ancestorsUpTo, World.makeFirst, if_neg nonempty, address]
      obtain made₁ | ⟨present, folder, there⟩ | ⟨missing, free⟩ := made h
      · simp [made₁, get?_put]
      · simp [present, folder, there]
      · -- the folder above is made first
        have some_before : pre ≠ [] := by
          rintro rfl
          simp [h.way.here_base] at free
        obtain ⟨q', parent⟩ := Option.isSome_iff_exists.1 (Path.isSome_parent? some_step)
        obtain ⟨⟨cut, steps'⟩, within⟩ := Path.steps_of_parent? parent some_step
        rw [steps, ← List.append_assoc] at steps'
        have along' := Path.leadsAlong_parent? along parent
        obtain ⟨ok, there⟩ := ih h ((List.prefix_append pre [last]).trans hpre) some_before
          (by simpa using few) (usable.of_isPrefix within) along'
          (List.append_inj' steps' rfl).1.symm
        have leads := h.makeFirst fun q hq =>
          Path.leadsAlong_of_mem_ancestorsUpTo (n := n) along' hq
        rcases first : w.makeFirst (q'.ancestorsUpTo n) with ⟨_, w₁⟩
        rw [first] at ok there leads
        obtain rfl := ok
        simp only [missing, parent, first]
        obtain made₂ | ⟨present, folder, there₂⟩ | ⟨-, free⟩ := made leads
        · simp [made₂, get?_put]
        · simp [present, folder, there₂]
        · simp [there] at free

/-- All folders of the path can be made, in whatever spelling. -/
theorem makeFolders_eq_ok (h : w.Leads p front r) (usable : IsUsable q)
    (along : q.LeadsAlong p.isAbsolute p.steps) (steps : q.steps = p.steps) :
    (w.makeFolders q).1 = .ok () ∧ (w.makeFolders q).2.get? r.address = some .folder := by
  have few : r.names.length ≤ q.bytes.length + 1 :=
    calc r.names.length ≤ q.steps.length := by simp [steps, h.steps]
      _ ≤ (pieces q.bytes).length := List.length_filter_le _ _
      _ ≤ q.bytes.length + 1 := length_pieces_le q.bytes
  exact h.makeFirst_eq_ok _ List.prefix_rfl h.some_name few usable along (steps.trans h.steps)

/-- Making folders along the path, as far as that goes, keeps it a path that leads on. -/
theorem makeFolders (h : w.Leads p front r) (along : q.LeadsAlong p.isAbsolute p.steps) :
    (w.makeFolders q).2.Leads p front r :=
  h.makeFirst fun _ hq => Path.leadsAlong_of_mem_ancestors along hq

/-- Making folders along the path makes none below its end. -/
theorem get?_makeFolders_below (h : w.Leads p front r) (along : q.LeadsAlong p.isAbsolute p.steps)
    (below : a ≠ []) : (w.makeFolders q).2.get? (a ++ r.address) = w.get? (a ++ r.address) := by
  refine (h.takes.paves along).same _ fun pre hpre same => ?_
  have lengths := congrArg List.length same
  have := hpre.length_le
  have := List.length_pos_iff.2 below
  simp only [Route.address, List.length_append, List.length_reverse] at lengths
  omega

/-! ## Files in the folder of the path -/

/-- The names of the path are passed when there is a folder at its end. -/
theorem passes (h : w.Leads p front r) (there : w.get? r.address = some .folder) :
    w.Passes r.base r.names :=
  h.tree.passes there fun name hname => (h.proper name hname).2

/-- A file below the end keeps it a path that leads on. -/
theorem put (h : w.Leads p front r) (hname : isName name = true)
    (there : w.get? r.address = some .folder)
    (noFolder : w.get? (name :: r.address) ≠ some .folder) (content : Bytes) :
    (w.put (name :: r.address) (.file content)).Leads p front r := by
  have kept : Keeps r.address w (w.put (name :: r.address) (.file content)) :=
    keeps_put noFolder (h.below [name]) (by simp)
  refine ⟨h.tree.put (.name hname there) fun folder => absurd folder noFolder, h.usable, h.firm,
    h.links, h.steps, ?_, h.some_name, h.proper, fun pre hpre => ?_,
    fun b target found => h.below b target (kept.noLink _ _ found)⟩
  · rw [kept.home]
    exact h.way.mono kept.folders kept.linked
  · have other : pre.reverse ++ r.base ≠ name :: r.address := by
      intro same
      have lengths := congrArg List.length same
      have := hpre.length_le
      simp only [Route.address, List.length_append, List.length_reverse, List.length_cons]
        at lengths
      omega
    rw [get?_put _ _ _ (List.cons_ne_nil _ _), if_neg other]
    exact h.passable pre hpre

/-- What is written under a name in the folder of the path stands there, or nothing is written. -/
theorem put_of_write {content : Bytes} (h : w.Leads p front r) (hname : isName name = true)
    (written : w.write (p.join ⟨name⟩) content = .ok w') :
    IsUsable (p.join ⟨name⟩) ∧ w' = w.put (name :: r.address) (.file content) ∧
      w'.Leads p front r := by
  obtain ⟨a, located, noFolder, rfl⟩ := write_eq_ok written
  obtain ⟨usable, passes, -, rfl⟩ := (h.takes.locate_join_eq_ok hname).1 located
  have there := passes.get?_of_isPrefix h.way.here_base List.prefix_rfl
  exact ⟨usable, rfl, h.put hname there noFolder content⟩

/-- Where all is as it was, the path leads as it did. -/
theorem of_get?_eq (h : w.Leads p front r) (tree : w'.IsTree) (home : w'.home = w.home)
    (same : ∀ a, w'.get? a = w.get? a) : w'.Leads p front r := by
  refine ⟨tree, h.usable, h.firm, h.links, h.steps, ?_, h.some_name, h.proper, ?_, ?_⟩
  · rw [home]
    exact h.way.mono (fun b _ found => (same b).trans found)
      fun b target _ found => (same b).trans found
  · simpa only [same] using h.passable
  · simpa only [same] using h.below

/-- The path leads to its end, or what is on the way to it is missing. -/
theorem locate_end (h : w.Leads p front r) : (∀ follow, w.locate follow p = .ok r.address) ∨
    (∀ follow, w.locate follow p = .error .missing) ∧ w.get? r.address = none := by
  obtain ⟨pre, last, names⟩ := List.eq_nil_or_concat r.names |>.resolve_left h.some_name
  rw [List.concat_eq_append] at names
  have address : r.address = last :: (pre.reverse ++ r.base) := by simp [Route.address, names]
  rw [address]
  obtain found | ⟨lost, missing⟩ :=
    h.locate_cases (names ▸ List.prefix_rfl) h.usable (names ▸ h.steps) rfl h.firm
  · exact .inl found
  · exact .inr ⟨lost, h.tree.get?_append_eq_none missing [last]⟩

/-- There is nothing to list where no folder has been made. -/
theorem list_eq_missing (h : w.Leads p front r) (free : w.get? r.address = none) :
    w.list p = .error .missing := by
  obtain found | ⟨lost, -⟩ := h.locate_end
  · simp [list, found, free, bind, Except.bind, throw, throwThe, MonadExceptOf.throw]
  · simp [list, lost, bind, Except.bind]

/-- The names that are listed are those of the folder at the end. -/
theorem list_eq_ok (h : w.Leads p front r) (there : w.get? r.address = some .folder) :
    w.list p = .ok (w.names r.address) := by
  obtain found | ⟨-, free⟩ := h.locate_end
  · simp [list, found, there, bind, Except.bind, pure, Except.pure]
  · simp [there] at free

/-- The folder at the end can be removed, unless it is missing. -/
theorem removeTree_cases (h : w.Leads p front r) :
    w.removeTree p = .error .missing ∨ ∃ w', w.removeTree p = .ok w' := by
  obtain found | ⟨lost, -⟩ := h.locate_end
  · obtain free | there := h.passable r.names List.prefix_rfl
    · refine .inl ?_
      rw [← Route.address] at free
      simp [removeTree, found, free, bind, Except.bind, throw, throwThe, MonadExceptOf.throw]
    · refine .inr ⟨w.eraseTree r.address, ?_⟩
      rw [← Route.address] at there
      simp [removeTree, found, there, bind, Except.bind, pure, Except.pure]
  · refine .inl ?_
    simp [removeTree, lost, bind, Except.bind]

end Leads

end Mutagenesis.Files.World
