import Mathlib.Data.List.Forall2
import Mathlib.Tactic.SplitIfs
import Mutagenesis.Config.Check
import Mutagenesis.Config.LineList
import Mutagenesis.Proofs.Numeral
import Mutagenesis.Proofs.Results
import Mutagenesis.Proofs.Text

/-!
# Line lists

A line list is read as the line numbers that its items write, and refused for the first item that
writes none. The items are what stands between the commas, with the blanks around it taken away and
without what is left empty. So numbers in decimal are read whatever zeros stand in front of them and
whatever blanks and empty items between them. A configuration is accepted only with lines to list.
-/
namespace Mutagenesis.Config

open Text (Trims Writes joinWith isBlank)

variable {text : String} {item : List Char} {items pieces : List (List Char)} {n zeros : Nat}
  {lines : List Nat} {fault : Fault}

/-! ## Items -/

/-- Whether the items are those of a text: what stands between its commas, trimmed, without what is
empty then. -/
def AreItems (text : List Char) (items : List (List Char)) : Prop :=
  ∃ pieces trimmed, pieces ≠ [] ∧ (∀ piece ∈ pieces, ',' ∉ piece) ∧ joinWith [','] pieces = text ∧
    List.Forall₂ Trims pieces trimmed ∧ items = trimmed.filter (· ≠ [])

theorem forall₂_trims_iff {trimmed : List (List Char)} :
    List.Forall₂ Trims pieces trimmed ↔ trimmed = pieces.map Text.trim := by
  have same : Trims = fun piece item => Text.trim piece = item := by
    funext piece item
    exact propext Text.trim_eq_iff.symm
  rw [same, ← List.forall₂_map_left_iff (R := Eq), List.forall₂_eq_eq_eq, eq_comm]

/-- A text has these items and no others. -/
theorem areItems_iff : AreItems text.toList items ↔ items = lineItems text := by
  have filled : (fun item : List Char => decide (item ≠ [])) = fun item => !item.isEmpty := by
    funext item
    cases item <;> rfl
  constructor
  · rintro ⟨pieces, trimmed, nonempty, free, joined, trims, rfl⟩
    rw [lineItems, Text.splitOn_eq_iff.2 ⟨nonempty, free, joined⟩, forall₂_trims_iff.1 trims,
      filled]
  · rintro rfl
    obtain ⟨nonempty, free, joined⟩ :=
      Text.splitOn_eq_iff.1 (rfl : Text.splitOn ',' text.toList = _)
    exact ⟨_, _, nonempty, free, joined, forall₂_trims_iff.2 rfl, by rw [lineItems, filled]⟩

/-! ## Line numbers -/

/-- Whether an item writes a line number: a positive number of at most sixty-four bits. -/
structure IsLine (item : List Char) (n : Nat) : Prop where
  writes : Writes item n
  positive : 1 ≤ n
  fits : n ≤ 0xFFFFFFFFFFFFFFFF

theorem lineNumber?_eq_some_iff : lineNumber? item = some n ↔ IsLine item n := by
  rw [lineNumber?, Option.bind_eq_some_iff]
  constructor
  · rintro ⟨m, hm, positive⟩
    obtain ⟨nonzero, rfl⟩ : m ≠ 0 ∧ m = n := by simpa using positive
    obtain ⟨writes, fits⟩ := Text.unsigned?_eq_some_iff.1 hm
    exact ⟨writes, Nat.pos_of_ne_zero nonzero, fits⟩
  · rintro ⟨writes, positive, fits⟩
    exact ⟨n, Text.unsigned?_eq_some_iff.2 ⟨writes, fits⟩, if_neg (Nat.ne_of_gt positive)⟩

theorem readLine_eq_ok_iff : readLine item = .ok n ↔ IsLine item n := by
  rw [← lineNumber?_eq_some_iff, readLine]
  cases lineNumber? item <;> simp

theorem readLine_eq_error_iff : readLine item = .error fault ↔
    (∀ n, ¬ IsLine item n) ∧ fault = .badLine (String.ofList item) := by
  simp only [← lineNumber?_eq_some_iff, readLine]
  cases lineNumber? item <;> simp [eq_comm]

theorem parseLines_eq_ok_iff :
    parseLines text = .ok lines ↔ List.Forall₂ IsLine (lineItems text) lines := by
  simp only [parseLines, mapM_eq_ok, readLine_eq_ok_iff]

/-- The fault is the first item that writes no line number. -/
theorem parseLines_eq_error_iff : parseLines text = .error fault ↔
    ∃ front item back, lineItems text = front ++ item :: back ∧
      (∀ other ∈ front, ∃ n, IsLine other n) ∧ (∀ n, ¬ IsLine item n) ∧
        fault = .badLine (String.ofList item) := by
  simp only [parseLines, mapM_eq_error, readLine_eq_ok_iff, readLine_eq_error_iff]

/-! ## Spelled numbers -/

/-- Whether pieces spell line numbers in decimal, each with any zeros in front and any blanks around
it, while the other pieces are blank. -/
inductive Spells : List (List Char) → List Nat → Prop
  | nil : Spells [] []
  | blank {piece : List Char} {pieces : List (List Char)} {lines : List Nat}
      (blank : ∀ c ∈ piece, isBlank c = true) (rest : Spells pieces lines) :
      Spells (piece :: pieces) lines
  | number {front back : List Char} {pieces : List (List Char)} {n : Nat} {lines : List Nat}
      (zeros : Nat) (before : ∀ c ∈ front, isBlank c = true) (after : ∀ c ∈ back, isBlank c = true)
      (positive : 1 ≤ n) (fits : n ≤ 0xFFFFFFFFFFFFFFFF) (rest : Spells pieces lines) :
      Spells ((front ++ (List.replicate zeros '0' ++ Nat.toDigits 10 n) ++ back) :: pieces)
        (n :: lines)

theorem isDigit_spelling {c : Char} (h : c ∈ List.replicate zeros '0' ++ Nat.toDigits 10 n) :
    c.isDigit = true := by
  obtain h | h := List.mem_append.1 h
  · rw [List.eq_of_mem_replicate h]
    rfl
  · exact Nat.isDigit_of_mem_toDigits (by decide) (by decide) h

theorem isLine_spelling (zeros : Nat) (positive : 1 ≤ n) (fits : n ≤ 0xFFFFFFFFFFFFFFFF) :
    IsLine (List.replicate zeros '0' ++ Nat.toDigits 10 n) n := by
  refine ⟨⟨[], _, rfl, .inl rfl, by simp [Nat.toDigits_ne_nil], fun c => isDigit_spelling, ?_⟩,
    positive, fits⟩
  simp [Nat.ofDigitChars_append, Nat.ofDigitChars_ten_toDigits]

theorem not_isBlank_of_isDigit {c : Char} (h : c.isDigit = true) : isBlank c = false := by
  have range : '0'.val ≤ c.val ∧ c.val ≤ '9'.val := by simpa [Char.isDigit] using h
  have low : 48 ≤ c.toNat := UInt32.le_iff_toNat_le.1 range.1
  have high : c.toNat ≤ 57 := UInt32.le_iff_toNat_le.1 range.2
  simp [isBlank]
  omega

/-- The blanks around a spelling are all that trimming takes away. -/
theorem trim_spelling {front back : List Char} (before : ∀ c ∈ front, isBlank c = true)
    (after : ∀ c ∈ back, isBlank c = true) :
    Text.trim (front ++ (List.replicate zeros '0' ++ Nat.toDigits 10 n) ++ back) =
      List.replicate zeros '0' ++ Nat.toDigits 10 n :=
  Text.trim_eq_iff.2 ⟨⟨front, back, rfl, before, after⟩,
    fun _ hc => not_isBlank_of_isDigit (isDigit_spelling (List.mem_of_mem_head? hc)),
    fun _ hc => not_isBlank_of_isDigit (isDigit_spelling (List.mem_of_mem_getLast? hc))⟩

theorem Spells.comma_notMem (h : Spells pieces lines) : ∀ piece ∈ pieces, ',' ∉ piece := by
  have notBlank : ¬ isBlank ',' = true := by decide
  have notDigit : ¬ ','.isDigit = true := by decide
  induction h with
  | nil => simp
  | blank blank rest ih =>
      exact List.forall_mem_cons.2 ⟨fun comma => notBlank (blank _ comma), ih⟩
  | number zeros before after positive fits rest ih =>
      refine List.forall_mem_cons.2 ⟨fun comma => ?_, ih⟩
      obtain comma | comma := List.mem_append.1 comma
      · obtain comma | comma := List.mem_append.1 comma
        · exact notBlank (before _ comma)
        · exact notDigit (isDigit_spelling comma)
      · exact notBlank (after _ comma)

theorem Spells.forall₂_isLine (h : Spells pieces lines) :
    List.Forall₂ IsLine ((pieces.map Text.trim).filter (!·.isEmpty)) lines := by
  induction h with
  | nil => exact .nil
  | blank blank rest ih => simpa [Text.trim_of_blank blank] using ih
  | number zeros before after positive fits rest ih =>
      rw [List.map_cons, trim_spelling before after, List.filter_cons_of_pos]
      · exact .cons (isLine_spelling zeros positive fits) ih
      · simp [Nat.toDigits_ne_nil]

/-- The numbers that are spelled are read. -/
theorem Spells.parseLines_eq_ok (h : Spells pieces lines)
    (joined : joinWith [','] pieces = text.toList) : parseLines text = .ok lines := by
  rw [parseLines_eq_ok_iff, lineItems]
  cases pieces with
  | nil =>
      cases h
      rw [← joined]
      exact .nil
  | cons piece pieces =>
      rw [Text.splitOn_eq_iff.2 ⟨List.cons_ne_nil piece pieces, h.comma_notMem, joined⟩]
      exact h.forall₂_isLine

/-! ## Lists of a configuration -/

/-- A configuration is not accepted with an empty list. -/
theorem lines_ne_nil_of_validate {c : Config} (valid : c.validate = .ok ())
    (only : c.mutateOnlyLines = some lines) : lines ≠ [] := by
  rintro rfl
  have none_found := parameterFault?_of_validate valid
  unfold parameterFault? filterFault? at none_found
  rw [only] at none_found
  split_ifs at none_found

/-- Line lists are read exactly, numbers in decimal are read as they are meant, and a configuration
that is accepted with the lines of a text lists some lines and no zero. -/
theorem parseLines_exact (text : String) :
    (∃ items, AreItems text.toList items) ∧
    (∀ items, AreItems text.toList items →
      (∀ lines, parseLines text = .ok lines ↔ List.Forall₂ IsLine items lines) ∧
      ∀ fault, parseLines text = .error fault ↔ ∃ front item back, items = front ++ item :: back ∧
        (∀ other ∈ front, ∃ n, IsLine other n) ∧ (∀ n, ¬ IsLine item n) ∧
          fault = .badLine (String.ofList item)) ∧
    (∀ pieces lines, Spells pieces lines → joinWith [','] pieces = text.toList →
      parseLines text = .ok lines) ∧
    ∀ lines, parseLines text = .ok lines → 0 ∉ lines ∧
      ∀ c : Config, c.mutateOnlyLines = some lines → c.validate = .ok () → lines ≠ [] := by
  refine ⟨⟨lineItems text, areItems_iff.2 rfl⟩, ?_, ?_, ?_⟩
  · intro items areItems
    obtain rfl := areItems_iff.1 areItems
    exact ⟨fun lines => parseLines_eq_ok_iff, fun fault => parseLines_eq_error_iff⟩
  · intro pieces lines spells joined
    exact spells.parseLines_eq_ok joined
  · intro lines read
    refine ⟨fun zero => ?_, fun c only valid => lines_ne_nil_of_validate valid only⟩
    obtain ⟨item, -, isLine⟩ := exists_of_forall₂ (parseLines_eq_ok_iff.1 read) zero
    exact absurd isLine.positive (by decide)

/-- The largest number is read past zeros, blanks of other scripts and empty items; of three items
the second one is the fault, a number with a blank inside, and not the zero behind it. -/
theorem parseLines_exact_of_odd_texts :
    let text := "\u00a0007,,\u300018446744073709551615\n,"
    let lines := [7, 18446744073709551615]
    let c := { standard with mutateOnlyLines := some lines }
    let refused := "+5,1 2,0"
    parseLines text = .ok lines ∧ 0 ∉ lines ∧ c.validate = .ok () ∧ lines ≠ [] ∧
      AreItems refused.toList ["+5".toList, "1 2".toList, "0".toList] ∧
        parseLines refused = .error (.badLine "1 2") := by
  intro text lines c refused
  have nothing : ∀ c ∈ [], isBlank c = true := List.forall_mem_nil _
  have blank : ∀ c, isBlank c = true → ∀ d ∈ [c], isBlank d = true :=
    fun _ h => List.forall_mem_singleton.2 h
  have spells : Spells ["\u00a0007".toList, [], "\u300018446744073709551615\n".toList, []] lines :=
    @Spells.number ['\u00a0'] [] _ 7 _ 2 (blank '\u00a0' rfl) nothing (by decide) (by decide)
      (.blank nothing (@Spells.number ['\u3000'] ['\n'] _ 18446744073709551615 _ 0
        (blank '\u3000' rfl) (blank '\n' rfl) (by decide) (by decide) (.blank nothing .nil)))
  have valid : c.validate = .ok () := by decide +kernel
  have areItems : AreItems refused.toList ["+5".toList, "1 2".toList, "0".toList] :=
    areItems_iff.2 (by decide)
  obtain ⟨-, -, spelled, kept⟩ := parseLines_exact text
  have read : parseLines text = .ok lines := spelled _ lines spells (by decide)
  obtain ⟨-, whole, -⟩ := parseLines_exact refused
  have five : IsLine "+5".toList 5 := lineNumber?_eq_some_iff.1 (by decide)
  have noLine : ∀ n, ¬ IsLine "1 2".toList n := by
    intro n isLine
    have unread : lineNumber? "1 2".toList = none := by decide
    exact nomatch unread.symm.trans (lineNumber?_eq_some_iff.2 isLine)
  exact ⟨read, (kept lines read).1, valid, (kept lines read).2 c rfl valid, areItems,
    ((whole _ areItems).2 _).2 ⟨["+5".toList], "1 2".toList, ["0".toList], rfl,
      by simpa using ⟨5, five⟩, noLine, rfl⟩⟩

end Mutagenesis.Config
