import Mathlib.Data.List.TakeWhile
import Mutagenesis.Text.Characters
import Mutagenesis.Text.Utf8

/-!
# Texts

Trimming leaves the item that has nothing but blanks around it, bytes that are a text are the bytes
of that text, a search finds the texts that stand somewhere in a text, and a text has a line for
each line feed and one for what follows the last. A text is taken apart into the pieces without the
separator that make it up. Two lists are in the order by the first difference as their first items
that differ are.
-/
namespace Mutagenesis

namespace Text

/-! ## Blanks at the ends -/

theorem exists_append_trimStart (cs : List Char) :
    ∃ front, cs = front ++ trimStart cs ∧ ∀ c ∈ front, isBlank c = true :=
  ⟨cs.takeWhile isBlank, List.takeWhile_append_dropWhile.symm,
    fun _ hc => List.mem_takeWhile_imp hc⟩

theorem exists_trimEnd_append (cs : List Char) :
    ∃ back, cs = trimEnd cs ++ back ∧ ∀ c ∈ back, isBlank c = true := by
  obtain ⟨front, split, blank⟩ := exists_append_trimStart cs.reverse
  refine ⟨front.reverse, ?_, fun c hc => blank c (List.mem_reverse.1 hc)⟩
  rw [← List.reverse_inj, split]
  simp [trimEnd, trimStart]

theorem isBlank_of_head?_trimStart {cs : List Char} {c : Char} (h : c ∈ (trimStart cs).head?) :
    isBlank c = false := by
  have first := List.head?_dropWhile_not isBlank cs
  rw [trimStart] at h
  rwa [Option.mem_def.1 h] at first

theorem trimStart_append {front cs : List Char} (blank : ∀ c ∈ front, isBlank c = true)
    (first : ∀ c ∈ cs.head?, isBlank c = false) : trimStart (front ++ cs) = cs := by
  rw [trimStart, List.dropWhile_append_of_pos blank]
  cases cs with
  | nil => rfl
  | cons c cs => simp [first c rfl]

theorem trimEnd_append {cs back : List Char} (blank : ∀ c ∈ back, isBlank c = true)
    (last : ∀ c ∈ cs.getLast?, isBlank c = false) : trimEnd (cs ++ back) = cs := by
  have turned : trimStart (back.reverse ++ cs.reverse) = cs.reverse :=
    trimStart_append (fun c hc => blank c (List.mem_reverse.1 hc)) (by simpa using last)
  rw [trimStart, ← List.reverse_append] at turned
  rw [trimEnd, turned, List.reverse_reverse]

theorem trim_of_blank {cs : List Char} (blank : ∀ c ∈ cs, isBlank c = true) : trim cs = [] := by
  have none_left : trimStart (cs ++ []) = [] := trimStart_append blank (by simp)
  rw [trim, ← List.append_nil cs, none_left]
  rfl

/-- Whether a text is an item with blanks around it, and the item neither begins nor ends with
one. -/
structure Trims (cs item : List Char) : Prop where
  around : ∃ front back, cs = front ++ item ++ back ∧ (∀ c ∈ front, isBlank c = true) ∧
    ∀ c ∈ back, isBlank c = true
  first : ∀ c ∈ item.head?, isBlank c = false
  last : ∀ c ∈ item.getLast?, isBlank c = false

theorem trims_trim (cs : List Char) : Trims cs (trim cs) := by
  obtain ⟨front, hfront, blankFront⟩ := exists_append_trimStart cs
  obtain ⟨back, hback, blankBack⟩ := exists_trimEnd_append (trimStart cs)
  refine ⟨⟨front, back, ?_, blankFront, blankBack⟩, ?_, ?_⟩
  · rw [trim, List.append_assoc, ← hback, ← hfront]
  · intro c hc
    have begins : (trimEnd (trimStart cs)).head? = some c := hc
    have first : (trimStart cs).head? = some c := by
      rw [hback, List.head?_append, begins]
      rfl
    exact isBlank_of_head?_trimStart first
  · intro c hc
    have last : c ∈ (trimStart (trimStart cs).reverse).head? := by
      simpa [trim, trimEnd, trimStart] using hc
    exact isBlank_of_head?_trimStart last

/-- Trimming leaves the one item that has nothing but blanks around it. -/
theorem trim_eq_iff {cs item : List Char} : trim cs = item ↔ Trims cs item := by
  constructor
  · rintro rfl
    exact trims_trim cs
  · rintro ⟨⟨front, back, rfl, before, after⟩, first, last⟩
    cases item with
    | nil =>
        rw [List.append_nil]
        exact trim_of_blank fun c hc => (List.mem_append.1 hc).elim (before c) (after c)
    | cons c item =>
        have begins : ∀ d ∈ (c :: item ++ back).head?, isBlank d = false := by simpa using first
        rw [trim, List.append_assoc, trimStart_append before begins, trimEnd_append after last]

theorem trim_trim (cs : List Char) : trim (trim cs) = trim cs :=
  trim_eq_iff.2 ⟨⟨[], [], by simp, by simp, by simp⟩, (trims_trim cs).first, (trims_trim cs).last⟩

@[simp] theorem trimmed_trimmed (s : String) : trimmed (trimmed s) = trimmed s := by
  simp [trimmed, trim_trim]

/-! ## Bytes and searches -/

theorem bytes_ofList (cs : List Char) :
    bytes (String.ofList cs) = cs.flatMap String.utf8EncodeChar := by
  simp [bytes, List.utf8Encode]

theorem bytes_append (s t : String) : bytes (s ++ t) = bytes s ++ bytes t := by
  simp [bytes]

/-- The size of a text is the number of its bytes. -/
theorem length_bytes_ofList (cs : List Char) :
    (bytes (String.ofList cs)).length = byteSize cs := by
  rw [bytes_ofList]
  induction cs with
  | nil => rfl
  | cons c cs ih =>
      rw [List.flatMap_cons, List.length_append, ih, String.length_utf8EncodeChar, byteSize_cons]

/-- Bytes that are a text are the bytes of that text. -/
theorem bytes_of_ofBytes? {bs : Bytes} {s : String} (h : ofBytes? bs = some s) : bytes s = bs := by
  unfold ofBytes? String.fromUTF8? at h
  split at h
  next valid =>
    obtain rfl := Option.some.inj h
    simp [bytes, String.fromUTF8]
  next => simp at h

/-- A search finds what stands somewhere in the text and nothing else. -/
theorem occurs_iff {needle cs : List Char} : occurs needle cs = true ↔ needle <:+: cs := by
  induction cs with
  | nil => simp [occurs]
  | cons c cs ih =>
      have begins : (dropPrefix? needle (c :: cs)).isSome ↔ needle <+: c :: cs := by
        simp only [Option.isSome_iff_exists, dropPrefix?_eq_some_iff]
        exact exists_congr fun _ => eq_comm
      rw [occurs, Bool.or_eq_true, begins, ih, List.infix_cons_iff]

/-! ## Lines -/

/-- There is one more piece than separators. -/
theorem length_splitOn (sep : Char) (cs : List Char) :
    (splitOn sep cs).length = cs.count sep + 1 := by
  induction cs with
  | nil => rfl
  | cons c cs ih =>
      by_cases h : c = sep
      · simp [splitOn, h, ih]
      · obtain ⟨piece, pieces, hpieces⟩ := List.exists_cons_of_ne_nil (splitOn_ne_nil sep cs)
        rw [hpieces] at ih
        simpa [splitOn, h, hpieces] using ih

/-- The last piece is empty when the text is, and when the text ends in a separator. -/
theorem getLast?_splitOn (sep : Char) (cs : List Char) :
    (splitOn sep cs).getLast? = some [] ↔ cs = [] ∨ cs.getLast? = some sep := by
  induction cs with
  | nil => simp [splitOn]
  | cons c cs ih =>
      obtain ⟨piece, pieces, hpieces⟩ := List.exists_cons_of_ne_nil (splitOn_ne_nil sep cs)
      rw [hpieces] at ih
      have count := length_splitOn sep cs
      cases cs with
      | nil => by_cases h : c = sep <;> simp [splitOn, h]
      | cons d ds =>
          rw [List.getLast?_cons_cons]
          by_cases h : c = sep
          · simpa [splitOn.eq_2, h, hpieces] using ih
          · cases pieces with
            | nil =>
                -- a single piece has no separator in it, so the text cannot end in one
                have absent : sep ∉ d :: ds := List.count_eq_zero.1 (by simpa [hpieces] using count)
                have last : (d :: ds).getLast? ≠ some sep := fun hlast =>
                  absent (List.mem_of_getLast? hlast)
                simpa [splitOn.eq_2, h, hpieces] using last
            | cons => simpa [splitOn.eq_2, h, hpieces] using ih

/-- A text is split where the separator first stands. -/
theorem splitOn_append_cons {sep : Char} {piece cs : List Char} (h : sep ∉ piece) :
    splitOn sep (piece ++ sep :: cs) = piece :: splitOn sep cs := by
  induction piece with
  | nil => simp [splitOn]
  | cons c piece ih =>
      obtain ⟨other, rest⟩ := List.ne_and_not_mem_of_not_mem_cons h
      simp [splitOn, other.symm, ih rest]

theorem splitOn_of_notMem {sep : Char} {piece : List Char} (h : sep ∉ piece) :
    splitOn sep piece = [piece] := by
  induction piece with
  | nil => rfl
  | cons c piece ih =>
      obtain ⟨other, rest⟩ := List.ne_and_not_mem_of_not_mem_cons h
      simp [splitOn, other.symm, ih rest]

theorem joinWith_cons_cons (sep p q : List Char) (ps : List (List Char)) :
    joinWith sep (p :: q :: ps) = p ++ sep ++ joinWith sep (q :: ps) := rfl

/-- Pieces without the separator are taken apart again. -/
theorem splitOn_joinWith {sep : Char} {ps : List (List Char)} (nonempty : ps ≠ [])
    (free : ∀ p ∈ ps, sep ∉ p) : splitOn sep (joinWith [sep] ps) = ps := by
  induction ps with
  | nil => exact absurd rfl nonempty
  | cons p ps ih =>
      rw [List.forall_mem_cons] at free
      cases ps with
      | nil => exact splitOn_of_notMem free.1
      | cons q qs =>
          rw [joinWith_cons_cons, List.append_assoc, List.singleton_append,
            splitOn_append_cons free.1, ih (List.cons_ne_nil q qs) free.2]

theorem joinWith_splitOn (sep : Char) (cs : List Char) : joinWith [sep] (splitOn sep cs) = cs := by
  induction cs with
  | nil => rfl
  | cons c cs ih =>
      obtain ⟨piece, pieces, hpieces⟩ := List.exists_cons_of_ne_nil (splitOn_ne_nil sep cs)
      rw [hpieces] at ih
      by_cases h : c = sep
      · simp only [splitOn, h, if_true, hpieces]
        rw [joinWith_cons_cons, ih]
        rfl
      · simp only [splitOn, if_neg h, hpieces]
        cases pieces with
        | nil => exact congrArg (c :: ·) ih
        | cons next pieces =>
            rw [joinWith_cons_cons] at ih ⊢
            exact congrArg (c :: ·) ih

theorem notMem_of_mem_splitOn {sep : Char} {cs piece : List Char} (h : piece ∈ splitOn sep cs) :
    sep ∉ piece := by
  induction cs generalizing piece with
  | nil => simp_all [splitOn]
  | cons c cs ih =>
      obtain ⟨first, pieces, hpieces⟩ := List.exists_cons_of_ne_nil (splitOn_ne_nil sep cs)
      by_cases hc : c = sep
      · simp only [splitOn, hc, if_true, List.mem_cons] at h
        obtain rfl | h := h
        · exact List.not_mem_nil
        · exact ih h
      · simp only [splitOn, if_neg hc, hpieces, List.mem_cons] at h
        rw [hpieces] at ih
        obtain rfl | h := h
        · exact List.not_mem_cons_of_ne_of_not_mem (Ne.symm hc) (ih List.mem_cons_self)
        · exact ih (List.mem_cons_of_mem first h)

/-- The pieces of a text are those without the separator that make it up. -/
theorem splitOn_eq_iff {sep : Char} {cs : List Char} {pieces : List (List Char)} :
    splitOn sep cs = pieces ↔
      pieces ≠ [] ∧ (∀ piece ∈ pieces, sep ∉ piece) ∧ joinWith [sep] pieces = cs := by
  constructor
  · rintro rfl
    exact ⟨splitOn_ne_nil sep cs, fun piece h => notMem_of_mem_splitOn h, joinWith_splitOn sep cs⟩
  · rintro ⟨nonempty, free, rfl⟩
    exact splitOn_joinWith nonempty free

theorem mem_of_mem_joinWith {c : Char} {sep : List Char} {ps : List (List Char)}
    (h : c ∈ joinWith sep ps) : c ∈ sep ∨ ∃ p ∈ ps, c ∈ p := by
  induction ps with
  | nil => simp [joinWith] at h
  | cons p ps ih =>
      cases ps with
      | nil => exact .inr ⟨p, List.mem_cons_self, h⟩
      | cons q qs =>
          rw [joinWith_cons_cons, List.mem_append, List.mem_append] at h
          obtain (h | h) | h := h
          · exact .inr ⟨p, List.mem_cons_self, h⟩
          · exact .inl h
          · obtain h | ⟨r, hr, h⟩ := ih h
            · exact .inl h
            · exact .inr ⟨r, List.mem_cons_of_mem p hr, h⟩

/-- The number of lines of a text: one for each line feed, and one for what follows the last. -/
def nrLines (cs : List Char) : Nat :=
  cs.count '\n' + if cs = [] ∨ cs.getLast? = some '\n' then 0 else 1

theorem length_lines (cs : List Char) : (lines cs).length = nrLines cs := by
  have count := length_splitOn '\n' cs
  have ends := getLast?_splitOn '\n' cs
  unfold lines nrLines
  cases hlast : (splitOn '\n' cs).getLast? with
  | none => simp [splitOn_ne_nil] at hlast
  | some last =>
      rw [hlast] at ends
      cases last with
      | nil => simp [hlast, count, ends.1]
      | cons c line =>
          have filled : ¬(cs = [] ∨ cs.getLast? = some '\n') := fun h => by simpa using ends.2 h
          simp [hlast, count, filled]

end Text

/-! ## The order by the first difference -/

section Lexical

variable {α : Type} [DecidableEq α] {le : α → α → Bool} {lt : α → α → Prop}

theorem lexicalLe_iff (strict : ∀ a b, a ≠ b → (le a b = true ↔ lt a b)) (irrefl : ∀ a, ¬lt a a)
    (as bs : List α) : lexicalLe le as bs = true ↔ as = bs ∨ List.Lex lt as bs := by
  induction as generalizing bs with
  | nil => cases bs <;> simp [lexicalLe]
  | cons a as ih =>
      cases bs with
      | nil => simp [lexicalLe]
      | cons b bs =>
          rw [lexicalLe, List.cons_lex_cons_iff]
          by_cases same : a = b
          · subst same
            simp [ih, irrefl]
          · simp [same, strict a b same]

end Lexical

end Mutagenesis
