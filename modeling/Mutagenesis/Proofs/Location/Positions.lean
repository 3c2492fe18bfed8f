import Mathlib.Data.List.DropRight
import Mutagenesis.Proofs.Location

/-!
# Positions and offsets

An offset between two characters of a source is on the line after the line feeds before it, and its
column counts the bytes since the last of them. `StandsAt` says so without looking for lines, and
`byteOffset` finds exactly these offsets: a line and a column name at most one offset, and an offset
has one line and column. So a location fits a source exactly when both of its places are there and
in order, and then the source is cut between characters.
-/
namespace Mutagenesis

open Text (byteSize cut)

/-- What stands before the last line: all up to the last line feed and with it. -/
def upToLastLine (before : List Char) : List Char := before.rdropWhile (· ≠ '\n')

/-- Whether an offset stands between two characters of a source, so many line feeds after its start
that it is on the given line, and so many bytes after the last of them. -/
def StandsAt (source : List Char) (offset line column : Nat) : Prop :=
  ∃ before after, source = before ++ after ∧ byteSize before = offset ∧
    line = 1 + before.count '\n' ∧ column = offset - byteSize (upToLastLine before)

@[simp] theorem upToLastLine_nil : upToLastLine [] = [] := rfl

theorem upToLastLine_concat (before : List Char) (c : Char) :
    upToLastLine (before ++ [c]) = if c = '\n' then before ++ [c] else upToLastLine before := by
  by_cases hc : c = '\n' <;> simp [upToLastLine, hc]

/-- A text without line feeds does not change what stands before the last line. -/
theorem upToLastLine_append {line : List Char} (h : '\n' ∉ line) (before : List Char) :
    upToLastLine (before ++ line) = upToLastLine before := by
  induction line using List.reverseRecOn with
  | nil => simp
  | append_singleton cs c ih =>
      simp only [List.mem_append, List.mem_singleton, not_or] at h
      rw [← List.append_assoc, upToLastLine_concat, if_neg (Ne.symm h.2), ih h.1]

theorem byteSize_upToLastLine_le (before : List Char) :
    byteSize (upToLastLine before) ≤ byteSize before := by
  obtain ⟨line, same⟩ := List.rdropWhile_prefix (· ≠ '\n') before
  have := congrArg byteSize same
  simp only [Text.byteSize_append] at this
  exact Nat.le.intro this

/-- The line and column that are counted along a text are those of its end. -/
theorem positionAfter_eq (before : List Char) :
    Text.positionAfter before =
      (1 + before.count '\n', byteSize before - byteSize (upToLastLine before)) := by
  induction before using List.reverseRecOn with
  | nil => rfl
  | append_singleton cs c ih =>
      have within := byteSize_upToLastLine_le cs
      have last : Text.positionAfter (cs ++ [c]) =
          if c = '\n' then ((Text.positionAfter cs).1 + 1, 0)
          else ((Text.positionAfter cs).1, (Text.positionAfter cs).2 + c.utf8Size) := by
        simp [Text.positionAfter]
      rw [last, ih, upToLastLine_concat]
      by_cases hc : c = '\n'
      · simp [hc, Nat.add_assoc]
      · simp only [hc, if_false, Text.byteSize_append, Text.byteSize_cons, Text.byteSize_nil]
        simp [hc]
        omega

/-- A line and a column name the offset that stands at them. -/
theorem byteOffset_eq_some_iff {source : List Char} {line column offset : Nat} :
    byteOffset source line column = some offset ↔ StandsAt source offset line column := by
  constructor
  · intro h
    obtain ⟨⟨start, rest⟩, hstart, hmap⟩ := Option.bind_eq_some_iff.1 h
    obtain ⟨⟨within, after⟩, hcut, rfl⟩ := Option.map_eq_some_iff.1 hmap
    obtain ⟨before, rfl, rfl, hcount, ended⟩ := lineStart?_eq_some hstart
    have hlast : upToLastLine before = before := by
      obtain rfl | ⟨front, rfl⟩ := ended
      · exact upToLastLine_nil
      · rw [upToLastLine_concat, if_pos rfl]
    obtain ⟨hline, rfl⟩ := Text.cut_eq_some hcut
    -- the column lies within the line, so no line feed stands between the two
    have same : '\n' ∉ within := by
      intro hmem
      have := List.mem_takeWhile_imp (hline ▸ List.mem_append_left after hmem)
      simp at this
    refine ⟨before ++ within, after ++ rest.dropWhile (· ≠ '\n'), ?_, by simp, ?_, ?_⟩
    · conv_lhs => rw [← List.takeWhile_append_dropWhile (p := (· ≠ '\n')) (l := rest), hline]
      simp
    · rw [hcount, List.count_append, List.count_eq_zero.2 same, Nat.add_zero]
    · rw [upToLastLine_append same, hlast]
      omega
  · rintro ⟨before, after, rfl, rfl, rfl, rfl⟩
    have found := byteOffset_positionAfter before after
    rwa [positionAfter_eq] at found

/-- And an offset has the line and column at which it stands. -/
theorem positionOf_eq_some_iff {source : List Char} {line column offset : Nat} :
    positionOf source offset = some (line, column) ↔ StandsAt source offset line column := by
  simp only [positionOf, Option.map_eq_some_iff]
  constructor
  · rintro ⟨⟨before, after⟩, hcut, place⟩
    obtain ⟨rfl, rfl⟩ := Text.cut_eq_some hcut
    obtain ⟨rfl, rfl⟩ := Prod.mk.inj ((positionAfter_eq before).symm.trans place)
    exact ⟨before, after, rfl, rfl, rfl, rfl⟩
  · rintro ⟨before, after, rfl, rfl, rfl, rfl⟩
    exact ⟨(before, after), Text.cut_append before after, positionAfter_eq before⟩

namespace Location

/-- A location fits a source when its two places are there, the end not before the start. -/
theorem byteRange_eq_some_iff {l : Location} {source : List Char} {start stop : Nat} :
    l.byteRange source = some (start, stop) ↔ StandsAt source start l.startLine l.startColumn ∧
      StandsAt source stop l.endLine l.endColumn ∧ start ≤ stop := by
  simp only [byteRange, Option.bind_eq_some_iff, ← byteOffset_eq_some_iff]
  constructor
  · rintro ⟨_, hstart, _, hstop, hif⟩
    split at hif
    next hle =>
      obtain ⟨rfl, rfl⟩ := Prod.mk.inj (Option.some.inj hif)
      exact ⟨hstart, hstop, hle⟩
    next => simp at hif
  · rintro ⟨hstart, hstop, hle⟩
    exact ⟨start, hstart, stop, hstop, if_pos hle⟩

/-- A source is cut at a location exactly where its two offsets are. -/
theorem parts_eq_some_iff {l : Location} {source before own after : List Char} :
    l.parts source = some (before, own, after) ↔ source = before ++ own ++ after ∧
      l.byteRange source = some (byteSize before, byteSize before + byteSize own) := by
  constructor
  · exact parts_eq_some
  · rintro ⟨rfl, hrange⟩
    have size : byteSize before + byteSize own - byteSize before = byteSize own := by omega
    simp only [parts, hrange, Option.bind_some, size]
    rw [List.append_assoc, Text.cut_append, Option.bind_some, Text.cut_append]
    rfl

end Location

/-- Positions and offsets name each other, and so do locations and ranges of offsets; and wherever a
location fits a source, however large its numbers are, the fragment is read and replaced between the
two offsets, which are within the source and between characters. -/
theorem positions_match_offsets (source : String) (l : Location) (replacement : String) :
    (∀ line column offset, (byteOffset source.toList line column = some offset ↔
        StandsAt source.toList offset line column) ∧
      (positionOf source.toList offset = some (line, column) ↔
        StandsAt source.toList offset line column)) ∧
    (∀ start stop, l.byteRange source.toList = some (start, stop) ↔
      StandsAt source.toList start l.startLine l.startColumn ∧
        StandsAt source.toList stop l.endLine l.endColumn ∧ start ≤ stop) ∧
    ((fragment source l).isSome = (l.byteRange source.toList).isSome ∧
      ∀ own, fragment source l = some own ↔ ∃ before after,
        source.toList = before ++ own.toList ++ after ∧
        l.byteRange source.toList =
          some (byteSize before, byteSize before + byteSize own.toList)) ∧
    ((splice source l replacement).isSome = (l.byteRange source.toList).isSome ∧
      ∀ spliced, splice source l replacement = some spliced ↔ ∃ before own after,
        source.toList = before ++ own ++ after ∧
        l.byteRange source.toList = some (byteSize before, byteSize before + byteSize own) ∧
        spliced.toList = before ++ replacement.toList ++ after) := by
  refine ⟨fun line column offset => ⟨byteOffset_eq_some_iff, positionOf_eq_some_iff⟩,
    fun start stop => Location.byteRange_eq_some_iff, ⟨?_, fun own => ?_⟩,
    isSome_splice source l replacement, fun spliced => ?_⟩
  · rw [fragment, Option.isSome_map, Location.isSome_parts]
  · simp only [fragment, Option.map_eq_some_iff, Prod.exists, Location.parts_eq_some_iff]
    constructor
    · rintro ⟨before, _, after, ⟨hsource, hrange⟩, rfl⟩
      exact ⟨before, after, by simpa using hsource, by simpa using hrange⟩
    · rintro ⟨before, after, hsource, hrange⟩
      exact ⟨before, own.toList, after, ⟨hsource, hrange⟩, String.ofList_toList⟩
  · simp only [splice, Option.map_eq_some_iff, Prod.exists, Location.parts_eq_some_iff]
    constructor
    · rintro ⟨before, own, after, ⟨hsource, hrange⟩, rfl⟩
      exact ⟨before, own, after, hsource, hrange, String.toList_ofList⟩
    · rintro ⟨before, own, after, hsource, hrange, hspliced⟩
      exact ⟨before, own, after, ⟨hsource, hrange⟩, by rw [← hspliced, String.ofList_toList]⟩

/-- An offset inside a character has no position, and a column past the end of its line no
offset; the carriage return before a line feed is the last character of its line. -/
example : positionOf "é\r\nx".toList 1 = none ∧ byteOffset "é\r\nx".toList 1 4 = none ∧
    byteOffset "é\r\nx".toList 1 3 = some 3 ∧ byteOffset "é\r\nx".toList 2 1 = some 5 := by
  decide

end Mutagenesis
