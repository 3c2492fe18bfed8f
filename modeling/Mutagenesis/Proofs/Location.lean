import Mathlib.Data.List.Basic
import Mutagenesis.Location

/-!
# Fitting locations

A location fits a source when both of its places do and are in order; then the source can be cut
there, and the three parts make it up again. An offset between two characters has a line and a
column, and these lead back to it, so a location that was made from two offsets names the text
between them.
-/
namespace Mutagenesis

open Text (byteSize cut)

namespace Text

/-- A text is cut after the bytes of its beginning. -/
theorem cut_append (before after : List Char) :
    cut (byteSize before) (before ++ after) = some (before, after) := by
  induction before with
  | nil => simp [cut]
  | cons c cs ih =>
      obtain ⟨n, hn⟩ : ∃ n, byteSize (c :: cs) = n + 1 :=
        ⟨byteSize (c :: cs) - 1, by have := c.utf8Size_pos; simp only [byteSize_cons]; omega⟩
      have hle : c.utf8Size ≤ n + 1 := by simp only [byteSize_cons] at hn; omega
      have hrest : n + 1 - c.utf8Size = byteSize cs := by simp only [byteSize_cons] at hn; omega
      rw [hn, List.cons_append, cut, if_pos hle, hrest, ih]
      rfl

/-- Of two beginnings of a text the smaller one is a beginning of the larger one. -/
theorem exists_append_of_byteSize_le {x y x' y' : List Char} (h : x ++ y = x' ++ y')
    (hle : byteSize x ≤ byteSize x') : ∃ z, x' = x ++ z ∧ y = z ++ y' := by
  obtain ⟨z, rfl, rfl⟩ | ⟨z, rfl, rfl⟩ := List.append_eq_append_iff.1 h
  · exact ⟨z, rfl, rfl⟩
  · cases z with
    | nil => exact ⟨[], by simp⟩
    | cons c cs =>
        have := c.utf8Size_pos
        simp only [byteSize_append, byteSize_cons] at hle
        omega

end Text

/-- A line feed ends the first line. -/
theorem nextLine?_append {line : List Char} (h : '\n' ∉ line) (rest : List Char) :
    nextLine? (line ++ '\n' :: rest) = some (byteSize line + 1, rest) := by
  induction line with
  | nil => simp [nextLine?]
  | cons c cs ih =>
      simp only [List.mem_cons, not_or] at h
      simp [nextLine?, Ne.symm h.1, ih h.2, Nat.add_assoc]

/-- And the next line starts after the first line feed. -/
theorem nextLine?_eq_some {cs rest : List Char} {n : Nat} (h : nextLine? cs = some (n, rest)) :
    ∃ line, '\n' ∉ line ∧ cs = line ++ '\n' :: rest ∧ byteSize line + 1 = n := by
  induction cs generalizing n with
  | nil => simp [nextLine?] at h
  | cons c cs ih =>
      by_cases hc : c = '\n'
      · subst hc
        simp only [nextLine?, if_true, Option.some.injEq, Prod.mk.injEq] at h
        exact ⟨[], by simp, by simp [h.2], by simp [← h.1]⟩
      · simp only [nextLine?, hc, if_false] at h
        obtain ⟨⟨m, rest'⟩, hm, heq⟩ := Option.map_eq_some_iff.1 h
        obtain ⟨rfl, rfl⟩ := Prod.mk.injEq .. ▸ heq
        obtain ⟨line, hline, rfl, rfl⟩ := ih hm
        exact ⟨c :: line, by simp [hline, Ne.symm hc], rfl, by simp [Nat.add_assoc]⟩

/-- A line starts after so many line feeds, the last of which ends all that stands before it. -/
theorem lineStart?_eq_some {line n : Nat} {cs rest : List Char}
    (h : lineStart? line cs = some (n, rest)) :
    ∃ before, cs = before ++ rest ∧ byteSize before = n ∧ line = 1 + before.count '\n' ∧
      (before = [] ∨ ∃ front, before = front ++ ['\n']) := by
  induction line, cs using lineStart?.induct generalizing n with
  | case1 => simp [lineStart?] at h
  | case2 cs =>
      simp only [lineStart?, Option.some.injEq, Prod.mk.injEq] at h
      exact ⟨[], by simp [h.2], by simp [h.1], by simp, .inl rfl⟩
  | case3 cs line ih =>
      simp only [lineStart?] at h
      obtain ⟨⟨k, more⟩, hnext, hmap⟩ := Option.bind_eq_some_iff.1 h
      obtain ⟨⟨m, rest'⟩, hstart, heq⟩ := Option.map_eq_some_iff.1 hmap
      obtain ⟨rfl, rfl⟩ := Prod.mk.injEq .. ▸ heq
      obtain ⟨first, hfirst, rfl, rfl⟩ := nextLine?_eq_some hnext
      obtain ⟨before, rfl, rfl, hcount, ended⟩ := ih more hstart
      refine ⟨first ++ '\n' :: before, by simp, ?_, ?_, .inr ?_⟩
      · simp [Nat.add_assoc, show ('\n').utf8Size = 1 from rfl]
      · simp only [List.count_append, List.count_eq_zero.2 hfirst, List.count_cons_self]
        omega
      · obtain rfl | ⟨front, rfl⟩ := ended
        · exact ⟨first, rfl⟩
        · exact ⟨first ++ '\n' :: front, by simp⟩

/-- The offset of a line and column stands between two characters. -/
theorem byteOffset_eq_some {source : List Char} {line column n : Nat}
    (h : byteOffset source line column = some n) :
    ∃ before after, source = before ++ after ∧ byteSize before = n := by
  obtain ⟨⟨start, rest⟩, hstart, hmap⟩ := Option.bind_eq_some_iff.1 h
  obtain ⟨⟨a, b⟩, hcut, rfl⟩ := Option.map_eq_some_iff.1 hmap
  obtain ⟨before, rfl, hbefore, -⟩ := lineStart?_eq_some hstart
  obtain ⟨hline, ha⟩ := Text.cut_eq_some hcut
  refine ⟨before ++ a, b ++ rest.dropWhile (· ≠ '\n'), ?_, by simp [hbefore, ha]⟩
  conv_lhs => rw [← List.takeWhile_append_dropWhile (p := (· ≠ '\n')) (l := rest), hline]
  simp

namespace Location

/-- A source is cut at a location into the text before it, the text there and the text after it. -/
theorem parts_eq_some {l : Location} {source before own after : List Char}
    (h : l.parts source = some (before, own, after)) :
    source = before ++ own ++ after ∧
      l.byteRange source = some (byteSize before, byteSize before + byteSize own) := by
  obtain ⟨⟨start, stop⟩, hrange, hcut⟩ := Option.bind_eq_some_iff.1 h
  obtain ⟨⟨b, rest⟩, hstart, hmap⟩ := Option.bind_eq_some_iff.1 hcut
  obtain ⟨⟨o, a⟩, hstop, heq⟩ := Option.map_eq_some_iff.1 hmap
  simp only [Prod.mk.injEq] at heq
  obtain ⟨rfl, rfl, rfl⟩ := heq
  obtain ⟨rfl, hb⟩ := Text.cut_eq_some hstart
  obtain ⟨rfl, ho⟩ := Text.cut_eq_some hstop
  obtain ⟨_, -, hrest⟩ := Option.bind_eq_some_iff.1 hrange
  obtain ⟨_, -, hif⟩ := Option.bind_eq_some_iff.1 hrest
  split at hif
  next hle =>
    simp only [Option.some.injEq, Prod.mk.injEq] at hif
    refine ⟨by simp, ?_⟩
    rw [hrange, hb, ho]
    congr 2
    omega
  next => simp at hif

/-- A source can be cut where a location fits. -/
theorem parts_of_byteRange {l : Location} {source : List Char} {start stop : Nat}
    (h : l.byteRange source = some (start, stop)) :
    ∃ before own after, l.parts source = some (before, own, after) ∧
      byteSize before = start ∧ byteSize before + byteSize own = stop := by
  obtain ⟨_, hstart, hrest⟩ := Option.bind_eq_some_iff.1 h
  obtain ⟨_, hstop, hif⟩ := Option.bind_eq_some_iff.1 hrest
  split at hif
  next hle =>
    simp only [Option.some.injEq, Prod.mk.injEq] at hif
    obtain ⟨rfl, rfl⟩ := hif
    obtain ⟨before, rest, hsource, rfl⟩ := byteOffset_eq_some hstart
    obtain ⟨upTo, after, hsource', rfl⟩ := byteOffset_eq_some hstop
    obtain ⟨own, rfl, rfl⟩ :=
      Text.exists_append_of_byteSize_le (hsource.symm.trans hsource') hle
    refine ⟨before, own, after, ?_, rfl, by simp⟩
    have hown : byteSize (before ++ own) - byteSize before = byteSize own := by
      simp only [Text.byteSize_append]
      omega
    simp only [parts, h, Option.bind_some, hown]
    rw [hsource, Text.cut_append, Option.bind_some, Text.cut_append]
    rfl
  next => simp at hif

/-- Whether a location fits a source. -/
def fits (l : Location) (source : String) : Bool := (l.byteRange source.toList).isSome

theorem isSome_parts (l : Location) (source : List Char) :
    (l.parts source).isSome = (l.byteRange source).isSome := by
  cases h : l.byteRange source with
  | none => simp [parts, h]
  | some range =>
      obtain ⟨before, own, after, hparts, -, -⟩ := parts_of_byteRange h
      simp [hparts]

end Location

/-- A text is put into a source where a location fits it. -/
theorem isSome_splice (source : String) (l : Location) (replacement : String) :
    (splice source l replacement).isSome = l.fits source := by
  simp [splice, Location.fits, Location.isSome_parts]

/-- What a source and the text at a location are made of when a replacement is put there. -/
theorem splice_eq_some {source spliced replacement : String} {l : Location}
    (h : splice source l replacement = some spliced) :
    ∃ before own after, fragment source l = some (String.ofList own) ∧
      source.toList = before ++ own ++ after ∧
      spliced.toList = before ++ replacement.toList ++ after := by
  obtain ⟨⟨before, own, after⟩, hparts, rfl⟩ := Option.map_eq_some_iff.1 h
  exact ⟨before, own, after, by simp [fragment, hparts], (Location.parts_eq_some hparts).1,
    by simp⟩

/-- Putting a text in place of another one changes the source. -/
theorem splice_ne_source {source spliced replacement own : String} {l : Location}
    (h : splice source l replacement = some spliced) (hown : fragment source l = some own)
    (hne : replacement ≠ own) : spliced ≠ source := by
  obtain ⟨before, own', after, hown', hsource, hspliced⟩ := splice_eq_some h
  rintro rfl
  have same : before ++ replacement.toList ++ after = before ++ own' ++ after :=
    hspliced.symm.trans hsource
  have hlist : replacement.toList = own' :=
    List.append_cancel_left (List.append_cancel_right same)
  rw [hown', Option.some.injEq] at hown
  exact hne (by rw [← hown, ← hlist, String.ofList_toList])

/-! ## Positions -/

/-- Counting lines from a later one. -/
theorem foldl_position (cs : List Char) (n line column : Nat) :
    cs.foldl (fun place c => if c = '\n' then (place.1 + 1, 0) else (place.1, place.2 + c.utf8Size))
        (line + n, column) =
      let place := cs.foldl
        (fun place c => if c = '\n' then (place.1 + 1, 0) else (place.1, place.2 + c.utf8Size))
        (line, column)
      (place.1 + n, place.2) := by
  induction cs generalizing line column with
  | nil => rfl
  | cons c cs ih =>
      by_cases hc : c = '\n'
      · simpa [hc, Nat.add_right_comm] using ih (line + 1) 0
      · simpa [hc] using ih line (column + c.utf8Size)

theorem positionAfter_of_notMem {cs : List Char} (h : '\n' ∉ cs) :
    Text.positionAfter cs = (1, byteSize cs) := by
  suffices ∀ column, cs.foldl (fun place c =>
      if c = '\n' then (place.1 + 1, 0) else (place.1, place.2 + c.utf8Size)) (1, column) =
      (1, column + byteSize cs) by simpa [Text.positionAfter] using this 0
  induction cs with
  | nil => simp
  | cons c cs ih =>
      simp only [List.mem_cons, not_or] at h
      intro column
      simp [Ne.symm h.1, ih h.2, Nat.add_assoc]

theorem positionAfter_append {line : List Char} (h : '\n' ∉ line) (rest : List Char) :
    Text.positionAfter (line ++ '\n' :: rest) =
      ((Text.positionAfter rest).1 + 1, (Text.positionAfter rest).2) := by
  have hline := positionAfter_of_notMem h
  simp only [Text.positionAfter] at hline ⊢
  rw [List.foldl_append, hline, List.foldl_cons, if_pos rfl]
  exact foldl_position rest 1 1 0

theorem one_le_positionAfter (cs : List Char) : 1 ≤ (Text.positionAfter cs).1 := by
  by_cases h : '\n' ∈ cs
  · obtain ⟨line, rest, rfl, hline⟩ := List.eq_append_cons_of_mem h
    rw [positionAfter_append hline]
    exact Nat.le_add_left _ _
  · exact Nat.le_of_eq (congrArg Prod.fst (positionAfter_of_notMem h)).symm

/-- A column of the first line stands so many bytes into the text. -/
theorem byteOffset_one {before : List Char} (h : '\n' ∉ before) (after : List Char) :
    byteOffset (before ++ after) 1 (byteSize before) = some (byteSize before) := by
  have hline : (before ++ after).takeWhile (· ≠ '\n') = before ++ after.takeWhile (· ≠ '\n') := by
    apply List.takeWhile_append_of_pos
    intro c hc
    have : c ≠ '\n' := fun heq => h (heq ▸ hc)
    simpa using this
  simp only [byteOffset, lineStart?, Option.bind_some, hline, Text.cut_append, Option.map_some,
    Nat.zero_add]

/-- A later line is counted from the line feed that ends the first one. -/
theorem byteOffset_append {line : List Char} (h : '\n' ∉ line) (rest : List Char) (k column : Nat) :
    byteOffset (line ++ '\n' :: rest) (k + 2) column =
      (byteOffset rest (k + 1) column).map (byteSize line + 1 + ·) := by
  simp only [byteOffset, lineStart?, nextLine?_append h, Option.bind_some]
  cases lineStart? (k + 1) rest with
  | none => rfl
  | some start =>
      simp only [Option.map_some, Option.bind_some]
      cases cut column (start.2.takeWhile (· ≠ '\n')) with
      | none => rfl
      | some _ => simp [Nat.add_assoc]

/-- The line and column of an offset lead back to it. -/
theorem byteOffset_positionAfter (before after : List Char) :
    byteOffset (before ++ after) (Text.positionAfter before).1 (Text.positionAfter before).2 =
      some (byteSize before) := by
  induction hlen : before.length using Nat.strongRecOn generalizing before with
  | ind n ih =>
      by_cases h : '\n' ∈ before
      · obtain ⟨line, rest, rfl, hline⟩ := List.eq_append_cons_of_mem h
        have hlt : rest.length < n := by
          simp only [← hlen, List.length_append, List.length_cons]
          omega
        have hrest := ih rest.length hlt rest rfl
        obtain ⟨k, hk⟩ : ∃ k, (Text.positionAfter rest).1 = k + 1 :=
          ⟨_, (Nat.sub_add_cancel (one_le_positionAfter rest)).symm⟩
        rw [hk] at hrest
        rw [positionAfter_append hline, hk, List.append_assoc, List.cons_append]
        rw [byteOffset_append hline, hrest]
        simp [Nat.add_assoc, show ('\n').utf8Size = 1 from rfl]
      · rw [positionAfter_of_notMem h]
        exact byteOffset_one h after

theorem byteOffset_of_positionOf {source : List Char} {offset line column : Nat}
    (h : positionOf source offset = some (line, column)) :
    byteOffset source line column = some offset := by
  obtain ⟨⟨before, after⟩, hcut, hpos⟩ := Option.map_eq_some_iff.1 h
  obtain ⟨rfl, rfl⟩ := Text.cut_eq_some hcut
  have := byteOffset_positionAfter before after
  simp only at hpos
  rwa [hpos] at this

end Mutagenesis
