import Mutagenesis.Files.Path

/-!
# Pieces of a path

Splitting at slashes and joining with slashes undo each other, and a slash between two texts splits
where they meet.
-/
namespace Mutagenesis.Files

theorem pieces_cons_slash (bs : Bytes) : pieces (slash :: bs) = [] :: pieces bs := by
  rw [pieces, if_pos rfl]

/-- Any other byte belongs to the first piece. -/
theorem pieces_cons_of_ne {b : UInt8} {bs piece : Bytes} {more : List Bytes} (hb : b ≠ slash)
    (hbs : pieces bs = piece :: more) : pieces (b :: bs) = (b :: piece) :: more := by
  rw [pieces, if_neg hb, hbs]

theorem pieces_ne_nil (bs : Bytes) : pieces bs ≠ [] := by
  induction bs with
  | nil => exact List.cons_ne_nil [] []
  | cons b bs ih =>
      obtain ⟨piece, more, hbs⟩ := List.exists_cons_of_ne_nil ih
      by_cases hb : b = slash
      · rw [hb, pieces_cons_slash]
        exact List.cons_ne_nil [] (pieces bs)
      · rw [pieces_cons_of_ne hb hbs]
        exact List.cons_ne_nil (b :: piece) more

/-- Pieces with a slash between them. -/
theorem pieces_append_slash (before after : Bytes) :
    pieces (before ++ slash :: after) = pieces before ++ pieces after := by
  induction before with
  | nil => exact pieces_cons_slash after
  | cons b bs ih =>
      by_cases hb : b = slash
      · rw [hb, List.cons_append, pieces_cons_slash, pieces_cons_slash, ih, List.cons_append]
      · obtain ⟨piece, more, hbs⟩ := List.exists_cons_of_ne_nil (pieces_ne_nil bs)
        rw [hbs, List.cons_append] at ih
        rw [pieces_cons_of_ne hb hbs, List.cons_append, pieces_cons_of_ne hb ih, List.cons_append]

theorem pieces_of_notMem {bs : Bytes} (h : slash ∉ bs) : pieces bs = [bs] := by
  induction bs with
  | nil => rfl
  | cons b bs ih =>
      simp only [List.mem_cons, not_or] at h
      exact pieces_cons_of_ne (Ne.symm h.1) (ih h.2)

/-- There are no more pieces than bytes, and one more. -/
theorem length_pieces_le (bs : Bytes) : (pieces bs).length ≤ bs.length + 1 := by
  induction bs with
  | nil => exact Nat.le_refl 1
  | cons b bs ih =>
      by_cases hb : b = slash
      · rw [hb, pieces_cons_slash]
        exact Nat.succ_le_succ ih
      · obtain ⟨first, more, hbs⟩ := List.exists_cons_of_ne_nil (pieces_ne_nil bs)
        rw [hbs] at ih
        rw [pieces_cons_of_ne hb hbs]
        exact Nat.le_succ_of_le ih

theorem slash_notMem_of_mem_pieces {piece bs : Bytes} (h : piece ∈ pieces bs) : slash ∉ piece := by
  induction bs generalizing piece with
  | nil =>
      obtain rfl := List.mem_singleton.1 h
      exact List.not_mem_nil
  | cons b bs ih =>
      by_cases hb : b = slash
      · rw [hb, pieces_cons_slash] at h
        obtain rfl | h := List.mem_cons.1 h
        · exact List.not_mem_nil
        · exact ih h
      · obtain ⟨first, more, hbs⟩ := List.exists_cons_of_ne_nil (pieces_ne_nil bs)
        rw [pieces_cons_of_ne hb hbs] at h
        obtain rfl | h := List.mem_cons.1 h
        · simpa [Ne.symm hb] using ih (hbs ▸ List.mem_cons_self)
        · exact ih (hbs ▸ List.mem_cons_of_mem _ h)

/-- The pieces of a path are those that it was joined from. -/
theorem pieces_joined {ps : List Bytes} (hne : ps ≠ []) (h : ∀ p ∈ ps, slash ∉ p) :
    pieces (joined ps) = ps := by
  induction ps with
  | nil => exact absurd rfl hne
  | cons p ps ih =>
      have hp := pieces_of_notMem (h p List.mem_cons_self)
      cases ps with
      | nil => simpa [joined] using hp
      | cons q qs =>
          have := ih (List.cons_ne_nil q qs) fun x hx => h x (List.mem_cons_of_mem p hx)
          rw [joined, pieces_append_slash, hp, this]
          · rfl
          · simp

theorem joined_pieces (bs : Bytes) : joined (pieces bs) = bs := by
  induction bs with
  | nil => rfl
  | cons b bs ih =>
      obtain ⟨piece, more, hbs⟩ := List.exists_cons_of_ne_nil (pieces_ne_nil bs)
      rw [hbs] at ih
      by_cases hb : b = slash
      · simp [hb, pieces_cons_slash, hbs, joined, ih]
      · rw [pieces_cons_of_ne hb hbs]
        cases more with
        | nil => simpa [joined] using ih
        | cons q qs => simpa [joined] using ih

end Mutagenesis.Files
