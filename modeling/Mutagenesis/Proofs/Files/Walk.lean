import Mutagenesis.Proofs.Files.Steps

/-!
# Ways through folders

A way leads from a folder along the steps of a path through folders and links that are there, until
names alone are left. Following the path is then a matter of these names: it succeeds when each is
that of a folder and says where an entry would be made.
-/
namespace Mutagenesis.Files.World

variable {w w' : World} {follow : Bool}
  {onLink : Address → Path → List Bytes → Except Fault Address}

/-! ## Idle pieces -/

theorem all_isEmpty_eq_false {ps : List Bytes} (firm : isFirm ps = true) :
    ps.all (·.isEmpty) = false := by
  obtain rfl | ⟨front, last, rfl⟩ := List.eq_nil_or_concat ps
  · simp [isFirm] at firm
  · have step : isIdle last = false := by simpa [isFirm] using firm
    have : last ≠ [] := by
      rintro rfl
      simp [isIdle] at step
    simp [this]

theorem ne_nil_of_isFirm {ps : List Bytes} (firm : isFirm ps = true) : ps ≠ [] := by
  rintro rfl
  simp [isFirm] at firm

theorem isFirm_of_cons {p : Bytes} {ps : List Bytes} (firm : isFirm (p :: ps) = true) :
    ps = [] ∨ isFirm ps = true := by
  cases ps with
  | nil => exact .inl rfl
  | cons q qs => exact .inr ((isFirm_cons_cons p q qs).symm.trans firm)

/-- Idle pieces make no difference to a walk whose links they make no difference to. -/
theorem walk_stepsOf_of
    (links : ∀ at' target {ps}, isFirm ps = true →
      onLink at' target ps = onLink at' target (stepsOf ps))
    {ps : List Bytes} (firm : ps = [] ∨ isFirm ps = true) (at' : Address) :
    w.walk follow onLink at' ps = w.walk follow onLink at' (stepsOf ps) := by
  induction ps generalizing at' with
  | nil => rfl
  | cons p ps ih =>
      have firm := firm.resolve_left (List.cons_ne_nil p ps)
      have rest := isFirm_of_cons firm
      cases idle : isIdle p with
      | true =>
          have steps : stepsOf (p :: ps) = stepsOf ps := by simp [stepsOf, idle]
          rw [steps, ← ih rest at']
          simp [walk, idle]
      | false =>
          have steps : stepsOf (p :: ps) = p :: stepsOf ps := by simp [stepsOf, idle]
          rw [steps]
          obtain rfl | rest := rest
          · rfl
          · have firmSteps := isFirm_stepsOf rest
            have some_left : (ps.isEmpty = false) ∧ (stepsOf ps).isEmpty = false := by
              simp [ne_nil_of_isFirm rest, ne_nil_of_isFirm firmSteps]
            simp only [walk, idle, ih (.inr rest), all_isEmpty_eq_false rest,
              all_isEmpty_eq_false firmSteps, some_left, links _ _ rest]

theorem stepsOf_append (ps qs : List Bytes) : stepsOf (ps ++ qs) = stepsOf ps ++ stepsOf qs :=
  List.filter_append ..

theorem stepsOf_stepsOf (ps : List Bytes) : stepsOf (stepsOf ps) = stepsOf ps := by
  simp [stepsOf]

/-- Idle pieces make no difference to a walk that does not end in one. -/
theorem walk_stepsOf (n : Nat) {ps : List Bytes} (firm : isFirm ps = true) (at' : Address) :
    w.walk follow (w.throughLink follow n) at' ps =
      w.walk follow (w.throughLink follow n) at' (stepsOf ps) := by
  induction n generalizing ps at' with
  | zero => exact walk_stepsOf_of (fun _ _ _ _ => rfl) (.inr firm) at'
  | succ n ih =>
      refine walk_stepsOf_of ?_ (.inr firm) at'
      intro at' target ps firm
      have before := (isFirm_append (pieces target.bytes) (ne_nil_of_isFirm firm)).trans firm
      have after := (isFirm_append (pieces target.bytes)
        (ne_nil_of_isFirm (isFirm_stepsOf firm))).trans (isFirm_stepsOf firm)
      rw [throughLink, throughLink, ih before, ih after, stepsOf_append, stepsOf_append,
        stepsOf_stepsOf]

/-- A link is followed along the steps of its target. -/
theorem throughLink_steps (n : Nat) (at' : Address) (target : Path) {ps : List Bytes}
    (firm : isFirm ps = true) :
    w.throughLink follow (n + 1) at' target ps =
      w.walk follow (w.throughLink follow n) (start at' target) (target.steps ++ ps) := by
  have some_left := ne_nil_of_isFirm firm
  have before := (isFirm_append (pieces target.bytes) some_left).trans firm
  have after := (isFirm_append target.steps some_left).trans firm
  rw [throughLink, walk_stepsOf n before, walk_stepsOf n after, stepsOf_append,
    stepsOf_append target.steps, Path.steps, stepsOf_stepsOf]

/-! ## Ways -/

/-- The way from a folder along steps, through so many links, to the folder from which on names
alone are left. It leads through no folder and no link at or below the address to avoid. -/
inductive Way (w : World) (avoided : Address) :
    Nat → Address → List Bytes → Address → List Bytes → Prop
  | arrived {at' names} (here : w.get? at' = some .folder) (free : ¬ avoided <:+ at')
      (named : ∀ name ∈ names, isName name = true) : Way w avoided 0 at' names at' names
  | up {links at' piece rest base names} (here : w.get? at' = some .folder)
      (free : ¬ avoided <:+ at') (up : isUp piece = true)
      (more : Way w avoided links at'.tail rest base names) :
      Way w avoided links at' (piece :: rest) base names
  | into {links at' name rest base names} (here : w.get? at' = some .folder)
      (free : ¬ avoided <:+ at') (named : isName name = true) (short : name.length ≤ nameLimit)
      (more : Way w avoided links (name :: at') rest base names) :
      Way w avoided links at' (name :: rest) base names
  | through {links at' name target rest base names} (here : w.get? at' = some .folder)
      (free : ¬ avoided <:+ at') (named : isName name = true) (short : name.length ≤ nameLimit)
      (found : w.get? (name :: at') = some (.link target)) (freeLink : ¬ avoided <:+ name :: at')
      (more : Way w avoided links (start at' target) (target.steps ++ rest) base names) :
      Way w avoided (links + 1) at' (name :: rest) base names

namespace Way

variable {avoided at' base : Address} {links : Nat} {ss names : List Bytes}

theorem here (way : Way w avoided links at' ss base names) : w.get? at' = some .folder := by
  cases way <;> assumption

theorem here_base (way : Way w avoided links at' ss base names) : w.get? base = some .folder := by
  induction way with
  | arrived here => exact here
  | up _ _ _ _ ih | into _ _ _ _ _ ih | through _ _ _ _ _ _ _ ih => exact ih

theorem named (way : Way w avoided links at' ss base names) :
    ∀ name ∈ names, isName name = true := by
  induction way with
  | arrived _ _ named => exact named
  | up _ _ _ _ ih | into _ _ _ _ _ ih | through _ _ _ _ _ _ _ ih => exact ih

/-- A way lasts as long as its folders and links do. -/
theorem mono (way : Way w avoided links at' ss base names)
    (folders : ∀ b, ¬ avoided <:+ b → w.get? b = some .folder → w'.get? b = some .folder)
    (linked : ∀ b target, ¬ avoided <:+ b → w.get? b = some (.link target) →
      w'.get? b = some (.link target)) : Way w' avoided links at' ss base names := by
  induction way with
  | arrived here free named => exact .arrived (folders _ free here) free named
  | up here free up _ ih => exact .up (folders _ free here) free up ih
  | into here free named short _ ih => exact .into (folders _ free here) free named short ih
  | through here free named short found freeLink _ ih =>
      exact .through (folders _ free here) free named short (linked _ _ freeLink found) freeLink ih

/-- A way goes on along further names. -/
theorem append (way : Way w avoided links at' ss base names) {more : List Bytes}
    (hmore : ∀ name ∈ more, isName name = true) :
    Way w avoided links at' (ss ++ more) base (names ++ more) := by
  induction way with
  | arrived here free named =>
      exact .arrived here free fun name hname => (List.mem_append.1 hname).elim (named name)
        (hmore name)
  | up here free up _ ih => exact .up here free up ih
  | into here free named short _ ih => exact .into here free named short ih
  | through here free named short found freeLink _ ih =>
      exact .through here free named short found freeLink (List.append_assoc .. ▸ ih)

/-- A path that goes a way and on from there is followed from where the way ends. -/
theorem walk_append (way : Way w avoided links at' ss base names) (n : Nat) {tail : List Bytes}
    (firm : isFirm tail = true) :
    w.walk follow (w.throughLink follow (n + links)) at' (ss ++ tail) =
      w.walk follow (w.throughLink follow n) base (names ++ tail) := by
  induction way with
  | arrived => rfl
  | @up links at' piece rest _ _ here free up more ih =>
      simpa [walk, isIdle_of_isUp up, up] using ih
  | @into links at' name rest _ _ here free named short more ih =>
      rw [List.cons_append, walk]
      simp only [isIdle_of_isName named, isUp_of_isName named, Nat.not_lt.2 short, more.here,
        Bool.false_eq_true, if_false, ih]
  | @through links at' name target rest _ _ here free named short found freeLink more ih =>
      have some_left : rest ++ tail ≠ [] := by simp [ne_nil_of_isFirm firm]
      have firmRest : isFirm (rest ++ tail) = true :=
        (isFirm_append rest (ne_nil_of_isFirm firm)).trans firm
      have goesOn : w.throughLink follow (n + (links + 1)) at' target (rest ++ tail) =
          w.walk follow (w.throughLink follow (n + links)) (start at' target)
            (target.steps ++ rest ++ tail) := by
        rw [← Nat.add_assoc, throughLink_steps _ at' target firmRest, List.append_assoc]
      rw [List.cons_append, walk]
      simp only [isIdle_of_isName named, isUp_of_isName named, Nat.not_lt.2 short, found,
        Bool.false_eq_true, if_false, List.isEmpty_eq_false_iff.2 some_left, Bool.false_and,
        goesOn, ih]

end Way

/-! ## Names -/

/-- Whether names lead from folder to folder. -/
def Passes (w : World) : Address → List Bytes → Prop
  | _, [] => True
  | at', name :: rest =>
      name.length ≤ nameLimit ∧ w.get? (name :: at') = some .folder ∧ Passes w (name :: at') rest

section Names

variable {at' a : Address} {names : List Bytes} {last : Bytes}

theorem Passes.mono (h : w.Passes at' names)
    (folders : ∀ b, w.get? b = some .folder → w'.get? b = some .folder) :
    w'.Passes at' names := by
  induction names generalizing at' with
  | nil => trivial
  | cons name rest ih => exact ⟨h.1, folders _ h.2.1, ih h.2.2⟩

/-- Each of the names leads to a folder. -/
theorem Passes.get?_of_isPrefix (h : w.Passes at' names) (here : w.get? at' = some .folder)
    {front : List Bytes} (hfront : front <+: names) :
    w.get? (front.reverse ++ at') = some .folder := by
  induction names generalizing at' front with
  | nil =>
      obtain rfl := List.prefix_nil.1 hfront
      exact here
  | cons name rest ih =>
      cases front with
      | nil => exact here
      | cons first front =>
          obtain ⟨rfl, before⟩ := List.cons_prefix_cons.1 hfront
          simpa using ih h.2.2 h.2.1 before

theorem Passes.short (h : w.Passes at' names) : ∀ name ∈ names, name.length ≤ nameLimit := by
  induction names generalizing at' with
  | nil => simp
  | cons name rest ih => exact List.forall_mem_cons.2 ⟨h.1, ih h.2.2⟩

theorem passes_append (at' : Address) (names : List Bytes) (last : Bytes) :
    w.Passes at' (names ++ [last]) ↔ w.Passes at' names ∧ last.length ≤ nameLimit ∧
      w.get? (last :: (names.reverse ++ at')) = some .folder := by
  induction names generalizing at' with
  | nil => simp [Passes]
  | cons name rest ih => simp [Passes, ih, and_assoc]

/-- Where names lead, the last of which need not be that of an entry. -/
def alongNames (w : World) (last : Bytes) : Address → List Bytes → Except Fault Address
  | at', [] => if nameLimit < last.length then .error .nameTooLong else .ok (last :: at')
  | at', name :: rest =>
      if nameLimit < name.length then .error .nameTooLong
      else match w.get? (name :: at') with
        | none => .error .missing
        | some .folder => alongNames w last (name :: at') rest
        | some _ => .error .notFolder

theorem alongNames_eq_ok :
    w.alongNames last at' names = .ok a ↔
      w.Passes at' names ∧ last.length ≤ nameLimit ∧ a = last :: (names.reverse ++ at') := by
  induction names generalizing at' with
  | nil =>
      simp only [alongNames, Passes, true_and, List.reverse_nil, List.nil_append]
      by_cases short : last.length ≤ nameLimit
      · simp [Nat.not_lt.2 short, short, eq_comm]
      · simp [Nat.not_le.1 short, short]
  | cons name rest ih =>
      simp only [alongNames, Passes]
      by_cases short : name.length ≤ nameLimit
      · simp only [Nat.not_lt.2 short, if_false, short, true_and]
        cases w.get? (name :: at') with
        | none => simp
        | some e => cases e <;> simp [ih]
      · simp [Nat.not_le.1 short, short]

/-- Names lead nowhere when one before the last is missing. -/
theorem missing_of_alongNames (h : w.alongNames last at' names = .error .missing) :
    ∃ front, front <+: names ∧ w.get? (front.reverse ++ at') = none := by
  induction names generalizing at' with
  | nil =>
      simp only [alongNames] at h
      split at h <;> simp at h
  | cons name rest ih =>
      simp only [alongNames] at h
      split at h
      next => simp at h
      next =>
        split at h
        next found => exact ⟨[name], by simp, by simpa using found⟩
        next =>
          obtain ⟨front, hfront, found⟩ := ih h
          exact ⟨name :: front, by simpa using hfront, by simpa using found⟩
        next => simp at h

/-- Following names, where no link stands, leads along them. -/
theorem walk_names (named : ∀ name ∈ names, isName name = true) (hlast : isName last = true)
    (noLink : ∀ front target, front <+: names →
      w.get? (front.reverse ++ at') ≠ some (.link target))
    (endLink : follow = true → ∀ target,
      w.get? (last :: (names.reverse ++ at')) ≠ some (.link target)) :
    w.walk follow onLink at' (names ++ [last]) = w.alongNames last at' names := by
  induction names generalizing at' with
  | nil =>
      simp only [List.reverse_nil, List.nil_append] at endLink
      simp only [List.nil_append, walk, isIdle_of_isName hlast, isUp_of_isName hlast,
        Bool.false_eq_true, if_false, alongNames, List.isEmpty_nil, Bool.true_and, List.all_nil,
        if_true]
      cases found : w.get? (last :: at') with
      | none => rfl
      | some e =>
          cases e with
          | folder | file => rfl
          | link target =>
              cases follow with
              | false => rfl
              | true => exact absurd found (endLink rfl target)
  | cons name rest ih =>
      have hname := named name List.mem_cons_self
      have some_left : (rest ++ [last]).isEmpty = false := by simp
      have some_name : (rest ++ [last]).all (·.isEmpty) = false := by
        simp [ne_nil_of_isName hlast]
      rw [List.cons_append, walk]
      simp only [isIdle_of_isName hname, isUp_of_isName hname, Bool.false_eq_true, if_false,
        some_left, some_name, Bool.false_and, alongNames]
      cases found : w.get? (name :: at') with
      | none => rfl
      | some e =>
          cases e with
          | folder =>
              have noLink' : ∀ front target, front <+: rest →
                  w.get? (front.reverse ++ name :: at') ≠ some (.link target) := by
                intro front target hfront
                simpa using noLink (name :: front) target (by simpa using hfront)
              have := ih (fun n hn => named n (List.mem_cons_of_mem name hn)) noLink'
                (by simpa using endLink)
              simp [this]
          | file => rfl
          | link target => exact absurd (by simpa using found) (noLink [name] target (by simp))

end Names

/-! ## What a path makes on a way -/

namespace Way

variable {avoided at' base a : Address} {links : Nat} {ss names : List Bytes}

theorem isIdle_of_mem (way : Way w avoided links at' ss base names) :
    ∀ piece ∈ ss, isIdle piece = false := by
  induction way with
  | arrived _ _ named => exact fun piece hpiece => isIdle_of_isName (named piece hpiece)
  | up _ _ up _ ih => exact List.forall_mem_cons.2 ⟨isIdle_of_isUp up, ih⟩
  | into _ _ named _ _ ih => exact List.forall_mem_cons.2 ⟨isIdle_of_isName named, ih⟩
  | through _ _ named _ _ _ _ ih =>
      exact List.forall_mem_cons.2 ⟨isIdle_of_isName named,
        fun piece hpiece => ih piece (List.mem_append_right _ hpiece)⟩

/-- The first steps of a way lead to an entry that is there or along the names that are left. -/
theorem entry_of_walk (way : Way w avoided links at' ss base names)
    (noLink : ∀ front target, front <+: names →
      w.get? (front.reverse ++ base) ≠ some (.link target))
    {front : List Bytes} (hfront : front <+: ss) (n : Nat)
    (h : w.walk false (w.throughLink false n) at' front = .ok a) :
    (∃ e, w.get? a = some e) ∨ ∃ made, made <+: names ∧ a = made.reverse ++ base := by
  induction way generalizing front n with
  | @arrived at' names here free named =>
      obtain rfl | ⟨front, last, rfl⟩ := List.eq_nil_or_concat front
      · obtain rfl := Except.ok.inj h
        exact .inl ⟨.folder, here⟩
      rw [List.concat_eq_append] at h hfront
      have before : front <+: names := (List.prefix_append front [last]).trans hfront
      have hnamed : ∀ name ∈ front ++ [last], isName name = true :=
        fun name hname => named name (hfront.subset hname)
      rw [walk_names (fun name hname => hnamed name (by simp [hname])) (hnamed last (by simp))
        (fun front' target hfront' => noLink front' target (hfront'.trans before)) (by simp),
        alongNames_eq_ok] at h
      exact .inr ⟨front ++ [last], hfront, by simp [h.2.2]⟩
  | @up links at' piece rest _ _ here free up more ih =>
      cases front with
      | nil =>
          obtain rfl := Except.ok.inj h
          exact .inl ⟨.folder, here⟩
      | cons p front =>
          obtain ⟨rfl, hrest⟩ := List.cons_prefix_cons.1 hfront
          simp only [walk, isIdle_of_isUp up, up, if_true, Bool.false_eq_true, if_false] at h
          exact ih noLink hrest n h
  | @into links at' name rest _ _ here free named short more ih =>
      cases front with
      | nil =>
          obtain rfl := Except.ok.inj h
          exact .inl ⟨.folder, here⟩
      | cons p front =>
          obtain ⟨rfl, hrest⟩ := List.cons_prefix_cons.1 hfront
          simp only [walk, isIdle_of_isName named, isUp_of_isName named, Bool.false_eq_true,
            if_false, Nat.not_lt.2 short, more.here] at h
          exact ih noLink hrest n h
  | @through links at' name target rest _ _ here free named short found freeLink more ih =>
      cases front with
      | nil =>
          obtain rfl := Except.ok.inj h
          exact .inl ⟨.folder, here⟩
      | cons p front =>
          obtain ⟨rfl, hrest⟩ := List.cons_prefix_cons.1 hfront
          simp only [walk, isIdle_of_isName named, isUp_of_isName named, Bool.false_eq_true,
            if_false, Nat.not_lt.2 short, found, Bool.not_false, Bool.and_true] at h
          obtain rfl | ⟨front, last, rfl⟩ := List.eq_nil_or_concat front
          · obtain rfl := Except.ok.inj h
            exact .inl ⟨_, found⟩
          -- the link is followed, for there is a step after it
          rw [List.concat_eq_append] at h hrest
          have step : isIdle last = false :=
            more.isIdle_of_mem last (List.mem_append_right _ (hrest.subset (by simp)))
          have firm : isFirm (front ++ [last]) = true := by simp [isFirm, step]
          have some_left : (front ++ [last]).isEmpty = false := by simp
          simp only [some_left, Bool.false_eq_true, if_false] at h
          cases n with
          | zero => simp [throughLink] at h
          | succ n =>
              rw [throughLink_steps n at' target firm] at h
              exact ih noLink ((List.prefix_append_right_inj _).2 hrest) n h

end Way

end Mutagenesis.Files.World
