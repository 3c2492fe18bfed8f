import Mutagenesis.Proofs.Location.Positions
import Mutagenesis.Proofs.Text

/-!
# Taking a replacement back

A replacement changes the bytes of a source between two offsets and no others. The text before it
stays, and with it the line and column where it starts; where it ends depends on its line feeds.
The location between these two places holds the replacement, and the old fragment put there gives
the source again.
-/
namespace Mutagenesis

open Text (byteSize bytes)

/-- The line and column after a beginning of a source do not depend on what follows it. -/
theorem standsAt_append {before after : List Char} {line column : Nat} :
    StandsAt (before ++ after) (byteSize before) line column ↔
      Text.positionAfter before = (line, column) := by
  rw [← positionOf_eq_some_iff, positionOf, Text.cut_append, Option.map_some, Option.some.injEq]

namespace Location

/-- The location with the same start and another end. -/
def endingAt (l : Location) (line column : Nat) : Location :=
  { l with endLine := line, endColumn := column }

/-- A source is cut between two texts when the location's places are those of their ends. -/
theorem parts_append {l : Location} {before own after : List Char}
    (start : Text.positionAfter before = (l.startLine, l.startColumn))
    (stop : Text.positionAfter (before ++ own) = (l.endLine, l.endColumn)) :
    l.parts (before ++ own ++ after) = some (before, own, after) := by
  rw [parts_eq_some_iff, byteRange_eq_some_iff]
  refine ⟨rfl, ?_, ?_, Nat.le_add_right _ _⟩
  · rwa [List.append_assoc, standsAt_append]
  · rwa [← Text.byteSize_append, standsAt_append]

/-- And a location that fits starts after the text before it. -/
theorem positionAfter_of_parts {l : Location} {source before own after : List Char}
    (h : l.parts source = some (before, own, after)) :
    Text.positionAfter before = (l.startLine, l.startColumn) := by
  obtain ⟨rfl, range⟩ := parts_eq_some h
  have stands := (byteRange_eq_some_iff.1 range).1
  rwa [List.append_assoc, standsAt_append] at stands

end Location

theorem splice_of_parts {source : String} {l : Location} {before own after : List Char}
    (h : l.parts source.toList = some (before, own, after)) (replacement : String) :
    splice source l replacement = some (String.ofList (before ++ replacement.toList ++ after)) := by
  rw [splice, h, Option.map_some]

theorem fragment_of_parts {source : String} {l : Location} {before own after : List Char}
    (h : l.parts source.toList = some (before, own, after)) :
    fragment source l = some (String.ofList own) := by
  rw [fragment, h, Option.map_some]

/-- The bytes of a text before, within and after a part of it. -/
theorem bytes_parts (before own after : List Char) :
    let source := bytes (String.ofList (before ++ own ++ after))
    source.take (byteSize before) = bytes (String.ofList before) ∧
      (source.take (byteSize before + byteSize own)).drop (byteSize before) =
        bytes (String.ofList own) ∧
      source.drop (byteSize before + byteSize own) = bytes (String.ofList after) := by
  simp only [String.ofList_append, Text.bytes_append, ← Text.length_bytes_ofList]
  refine ⟨?_, ?_, ?_⟩
  · rw [List.append_assoc, List.take_left]
  · rw [← List.length_append, List.take_left, List.drop_left]
  · rw [← List.length_append, List.drop_left]

/-- A replacement at a location that fits takes the place of the bytes there and leaves all others,
and it can be taken back: the location that starts where the old one does and ends where the
replacement ends holds the replacement, and the old fragment put there gives the source again. So
does the old fragment put in its own place. -/
theorem splice_taken_back (source replacement : String) {l : Location} {start stop : Nat}
    (h : l.byteRange source.toList = some (start, stop)) :
    ∃ spliced own, splice source l replacement = some spliced ∧ fragment source l = some own ∧
      bytes own = ((bytes source).take stop).drop start ∧
      bytes spliced = (bytes source).take start ++ bytes replacement ++ (bytes source).drop stop ∧
      (∃ line column,
        StandsAt spliced.toList (start + (bytes replacement).length) line column) ∧
      (∀ line column, StandsAt spliced.toList (start + (bytes replacement).length) line column →
        fragment spliced (l.endingAt line column) = some replacement ∧
          splice spliced (l.endingAt line column) own = some source) ∧
      splice source l own = some source := by
  obtain ⟨before, own, after, hparts, rfl, rfl⟩ := Location.parts_of_byteRange h
  have hsource : source = String.ofList (before ++ own ++ after) := by
    rw [← (Location.parts_eq_some hparts).1, String.ofList_toList]
  obtain ⟨hbefore, hown, hafter⟩ := bytes_parts before own after
  rw [← hsource] at hbefore hown hafter
  have place : byteSize before + (bytes replacement).length =
      byteSize (before ++ replacement.toList) := by
    rw [Text.byteSize_append, ← Text.length_bytes_ofList replacement.toList, String.ofList_toList]
  refine ⟨_, _, splice_of_parts hparts replacement, fragment_of_parts hparts, hown.symm,
    ?_, ?_, ?_, ?_⟩
  · rw [hbefore, hafter, String.ofList_append, String.ofList_append, Text.bytes_append,
      Text.bytes_append, String.ofList_toList]
  · simp only [String.toList_ofList, place, standsAt_append]
    exact ⟨_, _, rfl⟩
  · intro line column ends
    rw [String.toList_ofList, place, standsAt_append] at ends
    have back : (l.endingAt line column).parts
        (String.ofList (before ++ replacement.toList ++ after)).toList =
          some (before, replacement.toList, after) := by
      have start : Text.positionAfter before = (l.startLine, l.startColumn) :=
        Location.positionAfter_of_parts hparts
      rw [String.toList_ofList]
      exact Location.parts_append start ends
    refine ⟨?_, ?_⟩
    · rw [fragment_of_parts back, String.ofList_toList]
    · rw [splice_of_parts back, String.toList_ofList, hsource]
  · rw [splice_of_parts hparts, String.toList_ofList, hsource]

/-- A fragment over two lines, between characters of more than one byte, gives way to three lines
with other such characters at both ends, and comes back. -/
theorem splice_taken_back_over_lines :
    let source := "é(x,\n  ÿ)ß\nz"
    let l : Location := .between "a.js" (1, 2) (2, 5)
    let replacement := "ü\r\n\ný"
    l.byteRange source.toList = some (2, 11) ∧
      splice source l replacement = some "éü\r\n\nýß\nz" ∧
      fragment "éü\r\n\nýß\nz" (l.endingAt 3 2) = some replacement ∧
      splice "éü\r\n\nýß\nz" (l.endingAt 3 2) "(x,\n  ÿ)" = some source := by
  intro source l replacement
  have fits : l.byteRange source.toList = some (2, 11) := by decide
  obtain ⟨spliced, own, hspliced, hown, -, -, -, back, -⟩ :=
    splice_taken_back source replacement fits
  obtain rfl : spliced = "éü\r\n\nýß\nz" :=
    Option.some.inj (hspliced.symm.trans (by decide +kernel))
  obtain rfl : own = "(x,\n  ÿ)" := Option.some.inj (hown.symm.trans (by decide +kernel))
  have ends : StandsAt "éü\r\n\nýß\nz".toList (2 + (bytes replacement).length) 3 2 :=
    positionOf_eq_some_iff.1 (by decide +kernel)
  obtain ⟨hreplacement, hsource⟩ := back 3 2 ends
  exact ⟨fits, hspliced, hreplacement, hsource⟩

end Mutagenesis
