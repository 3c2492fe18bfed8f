import Mutagenesis.Model.Live
import Mutagenesis.Model.Replay
import Mutagenesis.Proofs.Files.Lasting
import Mutagenesis.Proofs.Json.Bounds
import Mutagenesis.Proofs.Model.Caching
import Mutagenesis.Proofs.Number.Accepted
import Mutagenesis.Proofs.Run.Recording

/-!
# What a run leaves where there are no links

A run makes no links, and neither do the queries of a cached model. So where there are none, the
mutants and the summary that a run has written are read from its output folder, whatever path leads
to it; and as far as their counts fit the words that hold them, they load.
-/
namespace Mutagenesis

open Files (World isName)

namespace Artifacts

variable {w w' w'' : World} {p folder : Path} {v : Json} {ms : List Mutant} {s : RunSummary}

/-! ## Worlds without links -/

theorem linkFree_writeJson (linkFree : w.LinkFree) (p : Path) (v : Json) :
    (writeJson w p v).2.LinkFree := by
  have made := linkFree.makeFolders (p.parent?.getD ⟨[]⟩)
  obtain ⟨_, failed⟩ | ⟨w', written, wrote⟩ := writeJson_cases w p v
  · exact failed ▸ made
  · exact wrote ▸ made.write written

theorem linkFree_removeRecords (linkFree : w.LinkFree) (h : removeRecords w folder = .ok w') :
    w'.LinkFree := by
  unfold removeRecords at h
  split at h
  next removed => exact Except.ok.inj h ▸ linkFree.removeTree removed
  next => exact Except.ok.inj h ▸ linkFree
  next => simp at h

theorem linkFree_removeIfPresent (linkFree : w.LinkFree) (h : removeIfPresent w p = .ok w') :
    w'.LinkFree := by
  obtain removed | ⟨rfl, -⟩ := removeFile_of_removeIfPresent h
  · exact linkFree.removeFile removed
  · exact linkFree

theorem linkFree_clear (linkFree : w.LinkFree) (h : clear w folder = (.ok (), w')) :
    w'.LinkFree := by
  obtain ⟨w₁, w₂, records, mutants, summary⟩ := clear_eq_ok h
  exact linkFree_removeIfPresent (linkFree_removeIfPresent (linkFree_removeRecords linkFree records)
    mutants) summary

/-! ## What is read of what was written -/

/-- A value that is written stands where its path leads, and no folder is gone. -/
theorem exists_of_writeJson (linkFree : w.LinkFree) (h : writeJson w p v = (.ok (), w')) :
    ∃ w₁ a, World.Lasts w w₁ ∧ w₁.locate true p = .ok a ∧ w₁.get? a ≠ some .folder ∧
      (∀ b e, w.get? b = some e → w₁.get? b = some e) ∧
      w' = w₁.put a (.file (Text.bytes v.page)) := by
  obtain ⟨a, located, noFolder, rfl⟩ := World.write_eq_ok (write_of_writeJson h)
  exact ⟨_, a, .makeFolders linkFree _, located, noFolder,
    fun _ _ found => World.get?_makeFolders _ found, rfl⟩

/-- Without links, the mutants are still read after the summary has been written, for the two files
have different names. -/
theorem read_of_saves (linkFree : w.LinkFree) (mutants : saveMutants w folder ms = (.ok (), w'))
    (summary : saveSummary w' folder s = (.ok (), w'')) :
    w''.read (mutantsPath folder) = .ok (Text.bytes (Json.arr (ms.map Mutant.toJson)).page) ∧
      w''.read (summaryPath folder) = .ok (Text.bytes s.toJson.page) := by
  have firmMutants := Path.isFirm_pieces_join isName_mutantsName folder
  have firmSummary := Path.isFirm_pieces_join isName_summaryName folder
  obtain ⟨w₁, a, lasts, located, noFolder, -, rfl⟩ := exists_of_writeJson linkFree mutants
  have written : World.Lasts w₁ (w₁.put a (mutantsFile ms)) :=
    World.Lasts.put lasts.linkFree' noFolder
  obtain ⟨w₂, b, lasts', located', noFolder', kept, rfl⟩ :=
    exists_of_writeJson written.linkFree' summary
  have written' : World.Lasts w₂ (w₂.put b (summaryFile s)) :=
    World.Lasts.put lasts'.linkFree' noFolder'
  constructor
  · refine (written.trans (lasts'.trans written')).read_eq_ok firmMutants located ?_
    have apart : a ≠ b := by
      obtain ⟨above, rfl⟩ := World.locate_join_eq_ok lasts.linkFree' isName_mutantsName located
      obtain ⟨above', rfl⟩ := World.locate_join_eq_ok lasts'.linkFree' isName_summaryName located'
      exact fun same => absurd (List.cons.inj same).1 (by decide)
    rw [World.get?_put _ _ _ (World.ne_nil_of_get? noFolder'), if_neg apart]
    refine kept a (mutantsFile ms) ?_
    rw [World.get?_put _ _ _ (World.ne_nil_of_get? noFolder), if_pos rfl]
  · refine written'.read_eq_ok firmSummary located' ?_
    rw [World.get?_put _ _ _ (World.ne_nil_of_get? noFolder'), if_pos rfl]
    rfl

/-- Whether a folder holds the mutants and the summary of a run. They load if their counts fit the
words that hold them, the temperature as the reader takes it. -/
structure HoldsRun (w : World) (folder : Path) (r : RunResult) : Prop where
  mutants : w.read (mutantsPath folder) =
    .ok (Text.bytes (Json.arr (r.mutants.map Mutant.toJson)).page)
  summary : w.read (summaryPath folder) = .ok (Text.bytes r.summary.toJson.page)
  loadsMutants : (∀ m ∈ r.mutants, m.Fits) → loadMutants w folder = .ok r.mutants
  loadsSummary : r.summary.CountsFit →
    ∃ temperature, loadSummary w folder = .ok (r.summary.withTemperature temperature)

end Artifacts

namespace Config

/-- The temperature of a configuration that is accepted can be read. -/
theorem exists_readsAs_of_validate {c : Config} (h : c.validate = .ok ()) :
    ∃ y, Json.ReadsAs c.temperature y := by
  refine Binary64.exists_readsAs ?_
  have none_found := parameterFault?_of_validate h
  cases inRange : c.temperature.inUnitRange 2 with
  | true => rfl
  | false =>
      simp only [parameterFault?, inRange, Bool.not_false, if_true] at none_found
      split_ifs at none_found

end Config

/-! ## Runs -/

/-- Whether the queries of a model make no link. -/
def Model.StaysLinkFree {σ : Type} (m : Model σ) : Prop :=
  ∀ text options s, s.1.LinkFree → (m.query text options s).2.1.LinkFree

theorem Cache.linkFree_store {w : World} (linkFree : w.LinkFree) (folder : Path)
    (entry : CacheEntry) : (store w folder entry).2.LinkFree := by
  have prepared := linkFree.makeFolders
    ((entryPath folder entry.fingerprint).parent?.getD folder)
  rcases stored : store w folder entry with ⟨fault | ⟨⟩, w'⟩
  · rw [Cache.eq_of_store_error stored]
    exact prepared
  · obtain ⟨a, -, noFolder, rfl⟩ := Cache.store_eq_ok stored
    exact prepared.put (World.ne_nil_of_get? noFolder) (by simp)

theorem Model.StaysLinkFree.cached {σ : Type} {m : Model σ} (h : m.StaysLinkFree)
    (folder : Path) : (m.cached folder).StaysLinkFree := by
  intro text options s linkFree
  have asked := h text options s linkFree
  simp only [Model.cached]
  split
  next => exact linkFree
  next =>
    rcases said : m.query text options s with ⟨failure | answer, w, s'⟩
    all_goals rw [said] at asked
    · exact asked
    · exact Cache.linkFree_store asked folder _

namespace Job

variable {σ : Type} {j : Job} {m : Model σ} {files : List SourceFile}

/-- What queries and records keep, a run keeps on its way. -/
theorem Visits.keeps {I : World × σ → Prop}
    (asked : ∀ {text s}, I s → I (m.query text j.options s).2)
    (saved : ∀ {prompt outcome w s}, I (w, s) → I ((j.save prompt outcome w).2, s))
    {specs : List (SourceFile × PromptSpec)} {p p' : Progress} {s s' : World × σ} {ts : List Turn}
    (way : Visits j m specs p s ts p' s') (h : I s) : I s' := by
  induction way with
  | done | full => exact h
  | unfit _ _ _ ih | filtered _ _ _ _ ih => exact ih h
  | @asked file spec more p s ts p' s' code outcome s₁ w₂ room fits kept answer stored rest ih =>
      have answered : I (m.query (render j.template code spec) j.options s).2 := asked h
      rw [answer] at answered
      have recorded : I ((j.save ⟨p.prompts.nextId, render j.template code spec, spec⟩ outcome
          s₁.1).2, s₁.2) := saved answered
      rw [stored] at recorded
      exact ih recorded

theorem linkFree_save {w : World} (linkFree : w.LinkFree) (prompt : Prompt)
    (outcome : Except Failure Answer) : (j.save prompt outcome w).2.LinkFree := by
  unfold save
  split
  next => exact Artifacts.linkFree_writeJson linkFree _ _
  next => exact linkFree

/-- A run that comes to its end leaves its mutants and its summary in the output folder. -/
theorem holdsRun_of_generate {folder : Path} {s s' : World × σ} {r : RunResult}
    (output : j.output = some folder) (linkFree : s.1.LinkFree) (stays : m.StaysLinkFree)
    (numbers : j.config.NumbersFit) (valid : j.config.validate = .ok ())
    (h : j.generate m files s = (.ok r, s')) : Artifacts.HoldsRun s'.1 folder r := by
  have config := config_of_generate h
  obtain ⟨w₁, p, w₂, s₂, cleared, way, -, result, -⟩ := generate_eq_ok h
  simp only [clear, output] at cleared
  have started : w₁.LinkFree := Artifacts.linkFree_clear linkFree cleared
  have visited : w₂.LinkFree := way.keeps (I := fun s => s.1.LinkFree)
    (stays _ _ _) (fun linkFree => linkFree_save linkFree _ _) started
  simp only [saveResult, output] at result
  split at result
  next => simp at result
  next w₃ mutants =>
    obtain ⟨readMutants, readSummary⟩ := Artifacts.read_of_saves visited mutants result
    refine ⟨readMutants, readSummary, fun fits => ?_, fun counts => ?_⟩
    · exact Artifacts.readJson_of_read readMutants
        (Json.written_listOf fun m hm => Mutant.written (fits m hm))
    · obtain ⟨y, reads⟩ := Config.exists_readsAs_of_validate valid
      rw [← config] at numbers reads
      exact ⟨y, Artifacts.readJson_of_read readSummary (RunSummary.writtenAs counts numbers reads)⟩

end Job

end Mutagenesis
