import Mathlib.Data.List.Forall2

/-!
# Results of steps

What the outcome of a computation tells of the computations that it is made of. Doing something for
each item of a list succeeds when it does for each of the items, and gives one outcome for each; it
fails as it does for the first item for which it fails.
-/
namespace Mutagenesis

variable {ε α β : Type}

theorem eq_ok_of_toOption {x : Except ε α} {a : α} (h : x.toOption = some a) : x = .ok a := by
  cases x with
  | error fault => simp [Except.toOption] at h
  | ok b => exact congrArg Except.ok (Option.some.inj h)

theorem exists_eq_ok {x : Except ε α} (h : ∀ fault, x ≠ .error fault) : ∃ a, x = .ok a := by
  cases x with
  | error fault => exact absurd rfl (h fault)
  | ok a => exact ⟨a, rfl⟩

theorem exists_of_map_eq_ok {f : α → β} {x : Except ε α} {b : β} (h : x.map f = .ok b) :
    ∃ a, x = .ok a ∧ f a = b := by
  cases x with
  | error fault => cases h
  | ok a => exact ⟨a, rfl, Except.ok.inj h⟩

theorem exists_of_discard {x : Except ε α} {u : Unit} (h : discard x = .ok u) :
    ∃ a, x = .ok a := by
  cases x with
  | error fault => exact nomatch h
  | ok a => exact ⟨a, rfl⟩

theorem mapM_eq_ok {f : α → Except ε β} {xs : List α} {ys : List β} :
    xs.mapM f = .ok ys ↔ List.Forall₂ (fun x y => f x = .ok y) xs ys := by
  constructor
  · intro h
    induction xs generalizing ys with
    | nil =>
        obtain rfl := Except.ok.inj h
        exact .nil
    | cons x xs ih =>
        simp only [List.mapM_cons, bind, Except.bind, pure, Except.pure] at h
        split at h
        next => simp at h
        next y hy =>
          split at h
          next => simp at h
          next ys' hys =>
            obtain rfl := Except.ok.inj h
            exact .cons hy (ih hys)
  · intro h
    induction h with
    | nil => rfl
    | cons hy _ ih => simp [hy, ih, bind, Except.bind, pure, Except.pure]

/-- Steps fail for a list with the fault of the first item for which they do. -/
theorem mapM_eq_error {f : α → Except ε β} {xs : List α} {fault : ε} :
    xs.mapM f = .error fault ↔ ∃ front x back, xs = front ++ x :: back ∧
      (∀ y ∈ front, ∃ b, f y = .ok b) ∧ f x = .error fault := by
  constructor
  · intro h
    induction xs with
    | nil => cases h
    | cons x xs ih =>
        rw [List.mapM_cons] at h
        cases hx : f x with
        | error own =>
            obtain rfl : own = fault := by simpa [hx, bind, Except.bind] using h
            exact ⟨[], x, xs, rfl, by simp, hx⟩
        | ok b =>
            cases hxs : xs.mapM f with
            | ok bs => simp [hx, hxs, bind, Except.bind, pure, Except.pure] at h
            | error later =>
                obtain rfl : later = fault := by simpa [hx, hxs, bind, Except.bind] using h
                obtain ⟨front, y, back, rfl, before, hy⟩ := ih hxs
                exact ⟨x :: front, y, back, rfl, List.forall_mem_cons.2 ⟨⟨b, hx⟩, before⟩, hy⟩
  · rintro ⟨front, x, back, rfl, before, hx⟩
    induction front with
    | nil => simp [hx, bind, Except.bind]
    | cons y front ih =>
        rw [List.forall_mem_cons] at before
        obtain ⟨⟨b, hy⟩, before⟩ := before
        simp [hy, ih before, bind, Except.bind]

/-- Steps that succeed where others do, with the same outcomes, succeed for the list. -/
theorem mapM_eq_ok_of_imp {f g : α → Except ε β} {xs : List α} {ys : List β}
    (h : xs.mapM f = .ok ys) (imp : ∀ x ∈ xs, ∀ y, f x = .ok y → g x = .ok y) :
    xs.mapM g = .ok ys := by
  rw [mapM_eq_ok] at h ⊢
  induction h with
  | nil => exact .nil
  | cons hy _ ih =>
      rw [List.forall_mem_cons] at imp
      exact .cons (imp.1 _ hy) (ih imp.2)

theorem exists_of_forall₂ {r : α → β → Prop} {xs : List α} {ys : List β} {y : β}
    (h : List.Forall₂ r xs ys) (hy : y ∈ ys) : ∃ x ∈ xs, r x y := by
  induction h with
  | nil => simp at hy
  | @cons x y' xs ys hr _ ih =>
      obtain rfl | hy := List.mem_cons.1 hy
      · exact ⟨x, List.mem_cons_self, hr⟩
      · obtain ⟨x', hx', hr'⟩ := ih hy
        exact ⟨x', List.mem_cons_of_mem x hx', hr'⟩

/-- What there is for each item of a list makes a list. -/
theorem exists_forall₂ {r : α → β → Prop} {xs : List α} (h : ∀ x ∈ xs, ∃ y, r x y) :
    ∃ ys, List.Forall₂ r xs ys := by
  induction xs with
  | nil => exact ⟨[], .nil⟩
  | cons x xs ih =>
      rw [List.forall_mem_cons] at h
      obtain ⟨⟨y, hy⟩, h⟩ := h
      obtain ⟨ys, hys⟩ := ih h
      exact ⟨y :: ys, .cons hy hys⟩

/-- A step that fails for one of the items fails for the list. -/
theorem mapM_ne_ok {f : α → Except ε β} {xs : List α} {x : α} (hx : x ∈ xs)
    (fails : (f x).toOption = none) (ys : List β) : xs.mapM f ≠ .ok ys := by
  intro h
  obtain ⟨y, -, hy⟩ := exists_of_forall₂ (mapM_eq_ok.1 h).flip hx
  simp [hy, Except.toOption] at fails

end Mutagenesis
