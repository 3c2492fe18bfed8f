import Mutagenesis.Proofs.Run.Loading

/-!
# Artifacts survive the disk

Whatever a run writes reads back as it was: from its text, and from the file to which the text is
written, in whichever folder that is.
-/
namespace Mutagenesis.Artifacts

open Files (Address World Route isName)
open Json (Decoder Written)

variable {α : Type} {d : Decoder α} {v : Json} {x : α}

/-- Whether what is written for a value reads back as the value, from the text and from a file in a
folder to which a path leads. -/
structure Survives (d : Decoder α) (v : Json) (x : α) : Prop where
  text : Json.decode d v.page = .ok x
  file : ∀ {w w' : World} {avoided : Address} {folder : Path} {r : Route} {name : Bytes},
    w.Takes avoided folder r → isName name = true →
      writeJson w (folder.join ⟨name⟩) v = (.ok (), w') →
        readJson w' (folder.join ⟨name⟩) d = .ok x

/-- What is written reads back from the file in which it was put. -/
theorem readJson_of_writeJson (written : Written d v x) {w w' : World} {avoided : Address}
    {folder : Path} {r : Route} {name : Bytes} (takes : w.Takes avoided folder r)
    (hname : isName name = true) (h : writeJson w (folder.join ⟨name⟩) v = (.ok (), w')) :
    readJson w' (folder.join ⟨name⟩) d = .ok x := by
  obtain ⟨w₁, takes₁, usable, passes, short, noFolder, rfl⟩ :=
    writeJson_eq_ok (I := fun w => w.Takes avoided folder r) hname id
      (fun takes _ free =>
        takes.keeps (World.keeps_put (by simp [free]) (by simp [free]) (by simp)))
      takes h
  have kept : World.Keeps avoided w₁ (w₁.put (name :: r.address) (.file (Text.bytes v.page))) :=
    World.keeps_put noFolder (takes₁.below [name]) (by simp)
  refine readJson_eq_ok (takes₁.keeps kept) hname usable (passes.mono fun b found => ?_) short ?_
    written
  · rw [World.get?_put _ _ _ (List.cons_ne_nil _ _), if_neg, found]
    rintro rfl
    exact noFolder found
  · rw [World.get?_put _ _ _ (List.cons_ne_nil _ _), if_pos rfl]

theorem survives_of_written (written : Written d v x) : Survives d v x :=
  ⟨written.decode_page, fun takes hname h => readJson_of_writeJson written takes hname h⟩

/-- Mutants, records and summaries survive as long as their numbers fit the words that hold them and
the temperature reads back from its written form, whatever their texts are. -/
theorem artifacts_survive (ms : List Mutant) (r : PromptRecord) (s : RunSummary)
    (mutantsFit : ∀ m ∈ ms, m.Fits) (recordFits : r.Fits) (summaryFits : s.Fits) :
    Survives (Json.listOf Mutant.decoder) (.arr (ms.map Mutant.toJson)) ms ∧
      Survives PromptRecord.decoder r.toJson r ∧ Survives RunSummary.decoder s.toJson s :=
  ⟨survives_of_written (Json.written_listOf fun m hm => Mutant.written (mutantsFit m hm)),
    survives_of_written (PromptRecord.written recordFits),
    survives_of_written (RunSummary.written summaryFits)⟩

/-- Quotes, backslashes, control characters, line separators, the largest numbers, empty lists and
filters that are set or not all survive. -/
theorem artifacts_survive_of_odd_texts :
    let odd := "\"\\/\u0000\u001f\u007f\n\t\u2028\u2029é"
    let most := 0xFFFFFFFFFFFFFFFF
    let mutant : Mutant := ⟨odd, most, most, 0, most, most, "", odd, most⟩
    let answered : PromptRecord :=
      ⟨most, odd, ⟨odd, most, 1, 0, most, most⟩, .completed ⟨["", odd], ⟨most, 0, most⟩⟩⟩
    let failed : PromptRecord := ⟨0, "", ⟨"", 0, 0, 0, 0, 0⟩, .failed⟩
    let filtered : Config := { Config.standard with
      modelName := odd, temperature := .ofRatio false 7 10, maxTokens := 0xFFFFFFFF
      mutateOnly := some odd, mutateOnlyLines := some [] }
    let summary (c : Config) : RunSummary := { RunSummary.start c with
      nrCandidates := most, usage := ⟨most, most, 0⟩, failures := ⟨0xFFFFFFFF, 0⟩ }
    (Survives (Json.listOf Mutant.decoder) (.arr ([mutant].map Mutant.toJson)) [mutant] ∧
      Survives PromptRecord.decoder answered.toJson answered ∧
      Survives RunSummary.decoder (summary filtered).toJson (summary filtered)) ∧
    (Survives (Json.listOf Mutant.decoder) (.arr ([].map Mutant.toJson)) [] ∧
      Survives PromptRecord.decoder failed.toJson failed ∧
      Survives RunSummary.decoder (summary .standard).toJson (summary .standard)) := by
  intro odd most mutant answered failed filtered summary
  have temperature : Json.ReadsBack filtered.temperature := eq_ok_of_toOption (by decide +kernel)
  have filteredFits : filtered.Fits :=
    ⟨⟨by decide, by decide, by decide, by decide, by simp [filtered], by decide⟩, temperature⟩
  have summaryFits : ∀ {c : Config}, c.Fits → (summary c).Fits := by
    intro c fits
    have usage : (⟨most, most, 0⟩ : Usage).Fits := by decide
    refine ⟨?_, fits⟩
    constructor
    case usage => exact usage
    case failures => constructor <;> simp [summary]
    all_goals simp [summary, most, RunSummary.start]
  constructor
  · refine artifacts_survive _ _ _ ?_ ?_ (summaryFits filteredFits)
    · rw [List.forall_mem_singleton]
      exact ⟨by decide, by decide⟩
    · exact ⟨by decide, by decide, show Usage.Fits _ by decide⟩
  · exact artifacts_survive _ _ _ (by simp)
      ⟨by decide, by decide, trivial⟩
      (summaryFits Config.fits_standard)

end Mutagenesis.Artifacts
