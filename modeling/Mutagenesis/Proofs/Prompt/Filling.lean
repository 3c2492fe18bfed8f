import Mathlib.Data.List.Infix
import Mathlib.Data.List.Nodup
import Mutagenesis.Prompt.Template

/-!
# Templates filled at once

The markers of a template are filled one after another, each throughout the text as it then stands.
To fill a template at once is to cut it at its markers, from the left, and to put each value in its
place; no value is then read again. Both give the same text when each marker, at its turn, stands in
the text only where the template has it: the pass then replaces these and nothing else. A marker in
the source code, or one that arises where a value meets the text beside it, is replaced all the
same.
-/
namespace Mutagenesis

/-- A marker and the value that is put in its place. -/
structure Slot where
  mark : List Char
  value : List Char
  deriving DecidableEq

/-- A piece of a template: a marker, or a character that belongs to none. -/
inductive Piece where
  | kept (c : Char)
  | marked (slot : Slot)
  deriving DecidableEq

/-- The text of a piece when some of the slots are filled. -/
def Piece.filled (done : List Slot) : Piece → List Char
  | kept c => [c]
  | marked s => if s ∈ done then s.value else s.mark

/-- The pieces of a text: at each place the first slot whose mark stands there is taken. The number
counts the characters of a mark that are still to be passed over. -/
def cutFrom (slots : List Slot) : Nat → List Char → List Piece
  | _, [] => []
  | k + 1, _ :: cs => cutFrom slots k cs
  | 0, c :: cs =>
      match slots.find? fun s => (Text.dropPrefix? s.mark (c :: cs)).isSome with
      | some s => .marked s :: cutFrom slots (s.mark.length - 1) cs
      | none => .kept c :: cutFrom slots 0 cs

/-- The pieces of a template with these slots. -/
def cutAt (slots : List Slot) (template : List Char) : List Piece := cutFrom slots 0 template

/-- The template with all slots filled at once. -/
def fillAtOnce (slots : List Slot) (template : List Char) : List Char :=
  (cutAt slots template).flatMap (Piece.filled slots)

/-- The number of places where the mark stands in the text. -/
def occurrences (mark text : List Char) : Nat :=
  text.tails.countP fun rest => (Text.dropPrefix? mark rest).isSome

/-- Whether each mark, when its turn comes, stands in the text only where the template has it. -/
def OnlyOwnMarks (slots : List Slot) (template : List Char) : Prop :=
  ∀ k (_ : k < slots.length),
    occurrences slots[k].mark ((cutAt slots template).flatMap (Piece.filled (slots.take k))) =
      (cutAt slots template).count (.marked slots[k])

instance (slots : List Slot) (template : List Char) : Decidable (OnlyOwnMarks slots template) :=
  inferInstanceAs (Decidable (∀ k (_ : k < slots.length), _ = _))

/-- The markers of a template in the order in which they are filled. -/
def PromptSpec.slots (spec : PromptSpec) (code : String) : List Slot :=
  (spec.fields code).flatMap fun (name, value) =>
    [⟨marker 3 name, value.toList⟩, ⟨marker 2 name, value.toList⟩]

/-- The template filled at once with the code and what the specification says. -/
def renderAtOnce (template code : String) (spec : PromptSpec) : String :=
  String.ofList (fillAtOnce (spec.slots code) template.toList)

/-! ## Occurrences -/

variable {mark : List Char}

theorem occurrences_cons (mark : List Char) (c : Char) (cs : List Char) :
    occurrences mark (c :: cs) =
      occurrences mark cs + if (Text.dropPrefix? mark (c :: cs)).isSome then 1 else 0 := by
  rw [occurrences, List.tails_cons, List.countP_cons]
  rfl

theorem occurrences_le_append (mark xs ys : List Char) :
    occurrences mark ys ≤ occurrences mark (xs ++ ys) := by
  induction xs with
  | nil => exact Nat.le_refl _
  | cons c xs ih =>
      rw [List.cons_append, occurrences_cons]
      omega

theorem isSome_dropPrefix?_append (mark rest : List Char) :
    (Text.dropPrefix? mark (mark ++ rest)).isSome = true := by
  rw [Text.dropPrefix?_eq_some_iff.2 rfl]
  rfl

/-- A mark stands in front of a text once more than in it. -/
theorem occurrences_mark_append (nonempty : mark ≠ []) (rest : List Char) :
    occurrences mark rest + 1 ≤ occurrences mark (mark ++ rest) := by
  obtain ⟨c, cs, rfl⟩ := List.exists_cons_of_ne_nil nonempty
  have begins := isSome_dropPrefix?_append (c :: cs) rest
  rw [List.cons_append] at begins ⊢
  rw [occurrences_cons, if_pos begins]
  have := occurrences_le_append (c :: cs) cs rest
  omega

/-! ## One pass -/

theorem replaceFrom_eq_drop (old new : List Char) (k : Nat) (cs : List Char) :
    Text.replaceFrom old new k cs = Text.replace old new (cs.drop k) := by
  induction k generalizing cs with
  | zero => rfl
  | succ k ih =>
      cases cs with
      | nil => rfl
      | cons c cs => exact ih cs

theorem replace_mark_append (nonempty : mark ≠ []) (value rest : List Char) :
    Text.replace mark value (mark ++ rest) = value ++ Text.replace mark value rest := by
  obtain ⟨c, cs, rfl⟩ := List.exists_cons_of_ne_nil nonempty
  have begins := isSome_dropPrefix?_append (c :: cs) rest
  rw [List.cons_append] at begins ⊢
  rw [Text.replace, Text.replaceFrom, if_pos begins, replaceFrom_eq_drop]
  simp

/-- A pass leaves a text as it is in which no occurrence begins. -/
theorem replace_append_of_absent {xs rest : List Char}
    (absent : occurrences mark (xs ++ rest) = occurrences mark rest) (value : List Char) :
    Text.replace mark value (xs ++ rest) = xs ++ Text.replace mark value rest := by
  induction xs with
  | nil => rfl
  | cons c xs ih =>
      rw [List.cons_append, occurrences_cons] at absent
      have le := occurrences_le_append mark xs rest
      have elsewhere : ¬ (Text.dropPrefix? mark (c :: (xs ++ rest))).isSome = true := by
        intro here
        rw [if_pos here] at absent
        omega
      rw [if_neg elsewhere] at absent
      rw [List.cons_append, Text.replace, Text.replaceFrom, if_neg elsewhere]
      exact congrArg (c :: ·) (ih (by omega))

variable {s : Slot} {done : List Slot}

theorem Piece.filled_concat_of_ne {p : Piece} (h : p ≠ .marked s) :
    p.filled (done ++ [s]) = p.filled done := by
  cases p with
  | kept c => rfl
  | marked t =>
      have ne : t ≠ s := fun same => h (congrArg Piece.marked same)
      simp [filled, ne]

/-- A slot that is not filled yet has its mark wherever the template has it. -/
theorem count_le_occurrences (fresh : s ∉ done) (nonempty : s.mark ≠ []) (pieces : List Piece) :
    pieces.count (.marked s) ≤ occurrences s.mark (pieces.flatMap (Piece.filled done)) := by
  induction pieces with
  | nil => exact Nat.zero_le _
  | cons p pieces ih =>
      rw [List.flatMap_cons]
      by_cases own : p = .marked s
      · subst own
        have more := occurrences_mark_append nonempty (pieces.flatMap (Piece.filled done))
        rw [List.count_cons_self, Piece.filled, if_neg fresh]
        omega
      · have le := occurrences_le_append s.mark (p.filled done)
          (pieces.flatMap (Piece.filled done))
        rw [List.count_cons_of_ne (Ne.symm (Ne.symm own))]
        omega

/-- A pass fills a slot, and nothing else, when its mark stands only where the template has it. -/
theorem replace_pieces (fresh : s ∉ done) (nonempty : s.mark ≠ []) {pieces : List Piece}
    (own : occurrences s.mark (pieces.flatMap (Piece.filled done)) = pieces.count (.marked s)) :
    Text.replace s.mark s.value (pieces.flatMap (Piece.filled done)) =
      pieces.flatMap (Piece.filled (done ++ [s])) := by
  induction pieces with
  | nil => rfl
  | cons p pieces ih =>
      have le := count_le_occurrences fresh nonempty pieces
      rw [List.flatMap_cons] at own ⊢
      rw [List.flatMap_cons]
      by_cases here : p = .marked s
      · subst here
        have more := occurrences_mark_append nonempty (pieces.flatMap (Piece.filled done))
        rw [List.count_cons_self, Piece.filled, if_neg fresh] at own
        rw [Piece.filled, if_neg fresh, replace_mark_append nonempty, ih (by omega)]
        simp [Piece.filled]
      · have more := occurrences_le_append s.mark (p.filled done)
          (pieces.flatMap (Piece.filled done))
        rw [List.count_cons_of_ne here] at own
        rw [replace_append_of_absent (by omega), ih (by omega), Piece.filled_concat_of_ne here]

/-! ## All passes -/

/-- A template is made of its pieces. -/
theorem flatMap_cutFrom {slots : List Slot} (nonempty : ∀ s ∈ slots, s.mark ≠ []) (k : Nat)
    (cs : List Char) : (cutFrom slots k cs).flatMap (Piece.filled []) = cs.drop k := by
  induction cs generalizing k with
  | nil => simp [cutFrom]
  | cons c cs ih =>
      cases k with
      | succ k => exact ih k
      | zero =>
          rw [cutFrom]
          split
          next s found =>
            obtain ⟨d, ds, hmark⟩ := List.exists_cons_of_ne_nil
              (nonempty s (List.mem_of_find?_eq_some found))
            have stands : (Text.dropPrefix? s.mark (c :: cs)).isSome = true := by
              simpa using List.find?_some found
            obtain ⟨rest, hrest⟩ := Option.isSome_iff_exists.1 stands
            rw [Text.dropPrefix?_eq_some_iff, hmark, List.cons_append, List.cons.injEq] at hrest
            obtain ⟨rfl, rfl⟩ := hrest
            simp [ih, Piece.filled, hmark]
          next => simp [ih, Piece.filled]

/-- One slot filled after another gives the text with all of them filled at once. -/
theorem foldl_replace {slots : List Slot} (distinct : slots.Nodup)
    (nonempty : ∀ s ∈ slots, s.mark ≠ []) {template : List Char}
    (own : OnlyOwnMarks slots template) :
    slots.foldl (fun text s => Text.replace s.mark s.value text) template =
      fillAtOnce slots template := by
  have upTo : ∀ k ≤ slots.length,
      (slots.take k).foldl (fun text s => Text.replace s.mark s.value text) template =
        (cutAt slots template).flatMap (Piece.filled (slots.take k)) := by
    intro k
    induction k with
    | zero => intro _; exact (flatMap_cutFrom nonempty 0 template).symm
    | succ k ih =>
        intro hk
        have fresh : slots[k] ∉ slots.take k := by
          intro again
          obtain ⟨i, hi, same⟩ := List.mem_iff_getElem.1 again
          rw [List.length_take] at hi
          rw [List.getElem_take, List.Nodup.getElem_inj_iff distinct] at same
          omega
        have pass := replace_pieces fresh (nonempty _ (List.getElem_mem hk)) (own k hk)
        rw [List.take_succ_eq_append_getElem hk, List.foldl_append, ih (by omega)]
        exact pass
  simpa [fillAtOnce] using upTo slots.length (Nat.le_refl _)

theorem foldl_fill (fields : List (String × String)) (text : List Char) :
    fields.foldl fill text =
      (fields.flatMap fun (name, value) =>
        [Slot.mk (marker 3 name) value.toList, Slot.mk (marker 2 name) value.toList]).foldl
        (fun text s => Text.replace s.mark s.value text) text := by
  induction fields generalizing text with
  | nil => rfl
  | cons field fields ih => exact ih (fill text field)

theorem PromptSpec.map_mark_slots (spec : PromptSpec) (code : String) :
    (spec.slots code).map (·.mark) =
      [marker 3 "code", marker 2 "code", marker 3 "orig", marker 2 "orig", marker 3 "feature",
        marker 2 "feature"] := rfl

/-- A template is filled as if all its markers were filled at once, unless a marker arises from what
is filled in. -/
theorem render_eq_renderAtOnce {template code : String} {spec : PromptSpec}
    (own : OnlyOwnMarks (spec.slots code) template.toList) :
    render template code spec = renderAtOnce template code spec := by
  have marks := spec.map_mark_slots code
  have distinct : (spec.slots code).Nodup :=
    List.Nodup.of_map (·.mark) (by rw [marks]; decide)
  have noneEmpty : [] ∉ (spec.slots code).map (·.mark) := by rw [marks]; decide
  have nonempty : ∀ s ∈ spec.slots code, s.mark ≠ [] :=
    fun s hs empty => noneEmpty (empty ▸ List.mem_map_of_mem hs)
  rw [render, foldl_fill, renderAtOnce, ← foldl_replace distinct nonempty own]
  rfl

/-- Braces in the values, also doubled ones and next to those of the template, are no markers. -/
theorem render_eq_renderAtOnce_of_braces :
    let spec : PromptSpec := ⟨.between "a.js" (1, 17) (1, 20), "\x7bx\x7d", "call arguments"⟩
    let template := "\x7b\x7b\x7bcode\x7d\x7d\x7d \x7b\x7b\x7b\x7borig\x7d\x7d\x7d\x7d" ++
      " \x7b\x7bfeature\x7d\x7d \x7b\x7bcode"
    let code := "f(\x7b\x7bx\x7d\x7d, \x7b\x7b\x7b\x7d\x7d\x7d, <PLACEHOLDER>)"
    OnlyOwnMarks (spec.slots code) template.toList ∧
      render template code spec = renderAtOnce template code spec ∧
      render template code spec =
        code ++ " \x7b\x7bx\x7d\x7d call arguments \x7b\x7bcode" := by
  intro spec template code
  have own : OnlyOwnMarks (spec.slots code) template.toList := by decide +kernel
  have same := render_eq_renderAtOnce own
  exact ⟨own, same, by decide +kernel⟩

/-- A marker that stands in the source code is replaced in the prompt, so the prompt does not hold
the code; and so is one that arises where the code meets a brace of the template. -/
theorem render_ne_renderAtOnce_of_marker :
    let spec : PromptSpec := ⟨.between "a.js" (1, 16) (1, 17), "f", "callee"⟩
    let within := "t = '\x7b\x7borig\x7d\x7d'; <PLACEHOLDER>(x)"
    let beside := "\x7borig\x7d"
    (render "\x7b\x7b\x7bcode\x7d\x7d\x7d" within spec = "t = 'f'; <PLACEHOLDER>(x)" ∧
      renderAtOnce "\x7b\x7b\x7bcode\x7d\x7d\x7d" within spec = within) ∧
    (render "\x7b\x7b\x7b\x7bcode\x7d\x7d\x7d\x7d" beside spec = "f" ∧
      renderAtOnce "\x7b\x7b\x7b\x7bcode\x7d\x7d\x7d\x7d" beside spec =
        "\x7b\x7borig\x7d\x7d") := by
  decide +kernel

end Mutagenesis
