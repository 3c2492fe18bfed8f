import Mutagenesis.Proofs.Json.Decoding
import Mutagenesis.Proofs.Results
import Mutagenesis.Run.Record
import Mutagenesis.Mutant.Basic

/-!
# Written records

The records that a run leaves behind read back from what is written for them, as long as their
numbers fit the words that hold them.
-/
namespace Mutagenesis

open Json (Written)

/-! ## Locations -/

namespace Location

/-- Whether the numbers of a location fit in sixty-four bits. -/
structure Fits (l : Location) : Prop where
  lineNr : l.lineNr ≤ 0xFFFFFFFFFFFFFFFF
  startLine : l.startLine ≤ 0xFFFFFFFFFFFFFFFF
  startColumn : l.startColumn ≤ 0xFFFFFFFFFFFFFFFF
  endLine : l.endLine ≤ 0xFFFFFFFFFFFFFFFF
  endColumn : l.endColumn ≤ 0xFFFFFFFFFFFFFFFF

instance (l : Location) : Decidable l.Fits :=
  decidable_of_iff (l.lineNr ≤ 0xFFFFFFFFFFFFFFFF ∧ l.startLine ≤ 0xFFFFFFFFFFFFFFFF ∧
      l.startColumn ≤ 0xFFFFFFFFFFFFFFFF ∧ l.endLine ≤ 0xFFFFFFFFFFFFFFFF ∧
      l.endColumn ≤ 0xFFFFFFFFFFFFFFFF)
    ⟨fun ⟨a, b, c, d, e⟩ => ⟨a, b, c, d, e⟩, fun ⟨a, b, c, d, e⟩ => ⟨a, b, c, d, e⟩⟩

def rows (l : Location) : List shape.Row :=
  [⟨Field.file, l.file, .str l.file⟩, ⟨Field.lineNr, l.lineNr, .nat l.lineNr⟩,
    ⟨Field.startLine, l.startLine, .nat l.startLine⟩,
    ⟨Field.startColumn, l.startColumn, .nat l.startColumn⟩,
    ⟨Field.endLine, l.endLine, .nat l.endLine⟩, ⟨Field.endColumn, l.endColumn, .nat l.endColumn⟩]

theorem written {l : Location} (h : l.Fits) : Written decoder l.toJson l := by
  refine Json.Shape.written_rows (s := shape) l.rows (by intro f; cases f <;> rfl) ?_ ?_ ?_
  · simp only [rows, List.forall_mem_cons]
    exact ⟨Json.written_string _, Json.written_count h.lineNr, Json.written_count h.startLine,
      Json.written_count h.startColumn, Json.written_count h.endLine,
      Json.written_count h.endColumn, by simp⟩
  · simp only [rows, List.map_cons, List.map_nil]
    decide
  · intro found d draft values _
    simp only [rows, List.forall_mem_cons] at values
    obtain ⟨file, lineNr, startLine, startColumn, endLine, endColumn, -⟩ := values
    simp only [decoder, draft, file, lineNr, startLine, startColumn, endLine, endColumn, bind,
      Except.bind, pure, Except.pure]

end Location

/-! ## Answers and their outcomes -/

namespace Usage

/-- Whether the counts of a usage fit in sixty-four bits. -/
structure Fits (u : Usage) : Prop where
  promptTokens : u.promptTokens ≤ 0xFFFFFFFFFFFFFFFF
  completionTokens : u.completionTokens ≤ 0xFFFFFFFFFFFFFFFF
  totalTokens : u.totalTokens ≤ 0xFFFFFFFFFFFFFFFF

instance (u : Usage) : Decidable u.Fits :=
  decidable_of_iff (u.promptTokens ≤ 0xFFFFFFFFFFFFFFFF ∧
      u.completionTokens ≤ 0xFFFFFFFFFFFFFFFF ∧ u.totalTokens ≤ 0xFFFFFFFFFFFFFFFF)
    ⟨fun ⟨a, b, c⟩ => ⟨a, b, c⟩, fun ⟨a, b, c⟩ => ⟨a, b, c⟩⟩

def rows (u : Usage) : List shape.Row :=
  [⟨Field.promptTokens, u.promptTokens, .nat u.promptTokens⟩,
    ⟨Field.completionTokens, u.completionTokens, .nat u.completionTokens⟩,
    ⟨Field.totalTokens, u.totalTokens, .nat u.totalTokens⟩]

theorem written {u : Usage} (h : u.Fits) : Written decoder u.toJson u := by
  refine Json.Shape.written_rows (s := shape) u.rows (by intro f; cases f <;> rfl) ?_ ?_ ?_
  · simp only [rows, List.forall_mem_cons]
    exact ⟨Json.written_u64 h.promptTokens, Json.written_u64 h.completionTokens,
      Json.written_u64 h.totalTokens, by simp⟩
  · simp only [rows, List.map_cons, List.map_nil]
    decide
  · intro found d draft values _
    simp only [rows, List.forall_mem_cons] at values
    obtain ⟨promptTokens, completionTokens, totalTokens, -⟩ := values
    simp only [decoder, draft, promptTokens, completionTokens, totalTokens, bind, Except.bind, pure,
      Except.pure]

end Usage

namespace Answer

def rows (a : Answer) : List shape.Row :=
  [⟨Field.completions, a.completions, .strs a.completions⟩, ⟨Field.usage, a.usage, a.usage.toJson⟩]

theorem written {a : Answer} (h : a.usage.Fits) : Written decoder a.toJson a := by
  refine Json.Shape.written_rows (s := shape) a.rows (by intro f; cases f <;> rfl) ?_ ?_ ?_
  · simp only [rows, List.forall_mem_cons]
    exact ⟨Json.written_listOf fun s _ => Json.written_string s, Usage.written h, by simp⟩
  · simp only [rows, List.map_cons, List.map_nil]
    decide
  · intro found d draft values _
    simp only [rows, List.forall_mem_cons] at values
    obtain ⟨completions, usage, -⟩ := values
    simp only [decoder, draft, completions, usage, bind, Except.bind, pure, Except.pure]

end Answer

namespace Outcome

/-- Whether the usage of an answer, if there is one, fits in sixty-four bits. -/
def Fits : Outcome → Prop
  | completed answer => answer.usage.Fits
  | failed => True

theorem written {o : Outcome} (h : o.Fits) : Written decoder o.toJson o := by
  cases o with
  | completed answer =>
      have whole := Answer.written (a := answer) h
      refine ⟨⟨trivial, whole.writable, trivial⟩, ?_⟩
      intro found holds
      cases holds with
      | obj each =>
          cases each with
          | cons status others =>
              cases others with
              | cons result done =>
                  cases status
                  cases done
                  simp [decoder, ofMembers, seek, Half.name, Status.decoder, Status.ofName,
                    Status.decode, whole.reads result, finish, bind, Except.bind, pure, Except.pure,
                    Except.map]
                  rfl
  | failed =>
      refine ⟨⟨trivial, trivial⟩, ?_⟩
      intro found holds
      cases holds with
      | obj each =>
          cases each with
          | cons status done =>
              cases status
              cases done
              simp [decoder, ofMembers, seek, Half.name, Status.decoder, Status.ofName,
                Status.alone, bind, Except.bind]

end Outcome

namespace PromptRecord

/-- Whether the numbers of a record fit in sixty-four bits. -/
structure Fits (r : PromptRecord) : Prop where
  id : r.id ≤ 0xFFFFFFFFFFFFFFFF
  location : r.location.Fits
  outcome : r.outcome.Fits

def rows (r : PromptRecord) : List shape.Row :=
  [⟨Field.id, r.id, .nat r.id⟩, ⟨Field.text, r.text, .str r.text⟩,
    ⟨Field.location, r.location, r.location.toJson⟩, ⟨Field.outcome, r.outcome, r.outcome.toJson⟩]

theorem written {r : PromptRecord} (h : r.Fits) : Written decoder r.toJson r := by
  refine Json.Shape.written_rows (s := shape) r.rows (by intro f; cases f <;> rfl) ?_ ?_ ?_
  · simp only [rows, List.forall_mem_cons]
    exact ⟨Json.written_u64 h.id, Json.written_string _, Location.written h.location,
      Outcome.written h.outcome, by simp⟩
  · simp only [rows, List.map_cons, List.map_nil]
    decide
  · intro found d draft values _
    simp only [rows, List.forall_mem_cons] at values
    obtain ⟨id, text, location, outcome, -⟩ := values
    simp only [decoder, draft, id, text, location, outcome, bind, Except.bind, pure, Except.pure]

end PromptRecord

/-! ## Mutants -/

namespace Mutant

/-- Whether the numbers of a mutant fit in sixty-four bits. -/
structure Fits (m : Mutant) : Prop where
  location : m.location.Fits
  promptId : m.promptId ≤ 0xFFFFFFFFFFFFFFFF

def rows (m : Mutant) : List shape.Row :=
  [⟨Field.file, m.file, .str m.file⟩, ⟨Field.lineNr, m.lineNr, .nat m.lineNr⟩,
    ⟨Field.startLine, m.startLine, .nat m.startLine⟩,
    ⟨Field.startColumn, m.startColumn, .nat m.startColumn⟩,
    ⟨Field.endLine, m.endLine, .nat m.endLine⟩, ⟨Field.endColumn, m.endColumn, .nat m.endColumn⟩,
    ⟨Field.originalCode, m.originalCode, .str m.originalCode⟩,
    ⟨Field.replacement, m.replacement, .str m.replacement⟩,
    ⟨Field.promptId, m.promptId, .nat m.promptId⟩]

theorem written {m : Mutant} (h : m.Fits) : Written decoder m.toJson m := by
  refine Json.Shape.written_rows (s := shape) m.rows (by intro f; cases f <;> rfl) ?_ ?_ ?_
  · simp only [rows, List.forall_mem_cons]
    exact ⟨Json.written_string _, Json.written_count h.location.lineNr,
      Json.written_count h.location.startLine, Json.written_count h.location.startColumn,
      Json.written_count h.location.endLine, Json.written_count h.location.endColumn,
      Json.written_string _, Json.written_string _, Json.written_u64 h.promptId, by simp⟩
  · simp only [rows, List.map_cons, List.map_nil]
    decide
  · intro found d draft values _
    simp only [rows, List.forall_mem_cons] at values
    obtain ⟨file, lineNr, startLine, startColumn, endLine, endColumn, originalCode, replacement,
      promptId, -⟩ := values
    simp only [decoder, draft, file, lineNr, startLine, startColumn, endLine, endColumn,
      originalCode, replacement, promptId, bind, Except.bind, pure, Except.pure]

end Mutant

end Mutagenesis
