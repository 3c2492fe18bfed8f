import Mutagenesis.Command.Run
import Mutagenesis.Proofs.Files.Ends
import Mutagenesis.Proofs.Run.Confined
import Mutagenesis.Proofs.Run.Replay

/-!
# Replaying a run into another folder

A replay reads a recorded run and writes a new one. It refuses to do so where the two paths name one
folder, and leaves the recorded run as it is where the new one stands clear of it.
-/
namespace Mutagenesis

open Files (Address World Route IsUsable isName)
open Artifacts (promptsAt Confined IsForeign)

variable {w w' : World} {folder : Path} {r r' : Route} {recording : Recording}

/-! ## Recorded runs that are left alone -/

namespace Artifacts

/-- Whether a run into the folder of the second route leaves the files in that of the first one
alone: it writes and clears none of them, and adds nothing to the records there. -/
structure StandsClear (w : World) (r r' : Route) : Prop where
  files : ∀ {b content}, w.get? (b ++ r.address) = some (.file content) →
    IsForeign r' (b ++ r.address)
  records : ¬ promptsAt r <:+ r'.address

/-- Whether the files below the end of a route, and the run recorded there, are as they were. -/
structure Unharmed (folder : Path) (r : Route) (w w' : World) : Prop where
  files : ∀ {b content}, w.get? (b ++ r.address) = some (.file content) →
    w'.get? (b ++ r.address) = some (.file content)
  recording : Recording.load w' folder = Recording.load w folder

/-- Folders apart stand clear of each other. -/
theorem IsApart.standsClear (apart : IsApart r r') (w : World) : StandsClear w r r' :=
  ⟨fun _ => (apart.isForeign _).1,
    fun within => apart.1 ((List.suffix_cons _ _).trans within)⟩

theorem Unharmed.refl (folder : Path) (r : Route) (w : World) : Unharmed folder r w w :=
  ⟨fun found => found, rfl⟩

theorem readJson_congr {α : Type} {p : Path} (d : Json.Decoder α) (same : w'.read p = w.read p) :
    readJson w' p d = readJson w p d := by
  simp only [readJson, World.readText, same]

/-- A value that was read from a file is read again where the file and the way to it are kept. -/
theorem readJson_of_kept {α : Type} {avoided : Address} {p : Path} {name : Bytes}
    {d : Json.Decoder α} {x : α} (hname : isName name = true) (takes : w.Takes avoided p r)
    (kept : World.Keeps avoided w w') (outside : ¬ avoided <:+ r.address)
    (file : ∀ {content}, w.get? (name :: r.address) = some (.file content) →
      w'.get? (name :: r.address) = some (.file content))
    (h : readJson w (p.join ⟨name⟩) d = .ok x) : readJson w' (p.join ⟨name⟩) d = .ok x := by
  obtain ⟨content, read⟩ := exists_read_of_readJson h
  obtain ⟨usable, passes, short, found⟩ := (takes.read_join_eq_ok hname).1 read
  have again := ((takes.keeps kept).read_join_eq_ok hname).2
    ⟨usable, passes.keeps kept outside, short, file found⟩
  rw [readJson_congr d (again.trans read.symm), h]

namespace StandsClear

section

variable {content : Bytes} (clear : StandsClear w r r') (takes : w.Takes (promptsAt r') folder r)
  (read : w.read (summaryPath folder) = .ok content)
include clear takes read

/-- A recorded run stands neither in the folder of the new run nor among its records. -/
theorem isForeign_promptsAt :
    r.address ≠ r'.address ∧ ¬ promptsAt r' <:+ r.address ∧ IsForeign r' (promptsAt r) := by
  have found := ((takes.read_join_eq_ok isName_summaryName).1 read).2.2.2
  have foreign : IsForeign r' (Text.bytes summaryName :: r.address) := clear.files (b := [_]) found
  have apart : r.address ≠ r'.address := fun same => foreign.notSummary (same ▸ rfl)
  have outside : ¬ promptsAt r' <:+ r.address :=
    fun within => foreign.notPrompts (within.trans (List.suffix_cons _ _))
  refine ⟨apart, outside, ⟨fun same => ?_, fun same => ?_, fun within => ?_⟩⟩
  · exact absurd (List.cons.inj same).1 (by decide)
  · exact absurd (List.cons.inj same).1 (by decide)
  · obtain same | within := List.suffix_cons_iff.1 within
    · exact apart (List.cons.inj same).2.symm
    · exact outside within

variable (confined : Confined r' w w')
include confined

/-- The records are listed as before. -/
theorem list_promptsPath : w'.list (promptsPath folder) = w.list (promptsPath folder) := by
  obtain ⟨-, outside, foreign⟩ := clear.isForeign_promptsAt takes read
  obtain ⟨usable, passes, -⟩ := (takes.read_join_eq_ok isName_summaryName).1 read
  have usable := usable.rename isName_summaryName isName_promptsName (by decide) (by decide)
  have same : w'.get? (promptsAt r) = w.get? (promptsAt r) := by
    cases found : w.get? (promptsAt r) with
    | none => exact confined.free foreign clear.records found
    | some e => exact confined.kept foreign found
  exact takes.list_join_congr (takes.keeps confined.keeps) isName_promptsName usable (by decide)
    passes (passes.keeps confined.keeps outside) same
    (confined.names clear.records foreign.notPrompts)

/-- The records are read as before. -/
theorem loadRecords_eq_ok (tree : w.IsTree) {records : List PromptRecord}
    (h : loadRecords w folder = .ok records) : loadRecords w' folder = .ok records := by
  obtain ⟨-, -, foreign⟩ := clear.isForeign_promptsAt takes read
  have listed := clear.list_promptsPath takes read confined
  have takesRecords := takes.join isName_promptsName
  unfold loadRecords at h ⊢
  simp only [listed]
  cases list : w.list (promptsPath folder) with
  | error fault => cases fault <;> simp_all
  | ok names =>
      simp only [list] at h ⊢
      cases loaded : (names.filter isRecordName).mapM (fun name =>
          readJson w ((promptsPath folder).join ⟨name⟩) PromptRecord.decoder) with
      | error fault => simp [loaded, bind, Except.bind] at h
      | ok xs =>
          have again : (names.filter isRecordName).mapM (fun name =>
              readJson w' ((promptsPath folder).join ⟨name⟩) PromptRecord.decoder) = .ok xs := by
            refine mapM_eq_ok_of_imp loaded fun name hname x hx => ?_
            obtain ⟨a, located, rfl⟩ := World.list_eq_ok list
            obtain rfl := ((takes.locate_join_eq_ok isName_promptsName).1 located).2.2.2
            have stands := World.mem_names_iff.1 (List.mem_filter.1 hname).1
            have hname := tree.named_of_get? stands name List.mem_cons_self
            refine readJson_of_kept hname takesRecords confined.keeps ?_ (fun found => ?_) hx
            · rw [Route.address_into]
              exact foreign.notPrompts
            · rw [Route.address_into] at found ⊢
              exact confined.kept (clear.files (b := [name, _]) found) found
          rw [← h, loaded, again]

end

/-- A run into the folder of the second route does the recorded run in that of the first no
harm. -/
theorem unharmed (clear : StandsClear w r r') (tree : w.IsTree)
    (takes : w.Takes (promptsAt r') folder r) (confined : Confined r' w w')
    (h : Recording.load w folder = .ok recording) : Unharmed folder r w w' := by
  obtain ⟨s, content, summary, read, records, config⟩ := exists_of_load h
  obtain ⟨-, outside, -⟩ := clear.isForeign_promptsAt takes read
  have summary' : loadSummary w' folder = .ok s :=
    readJson_of_kept isName_summaryName takes confined.keeps outside
      (fun found => confined.kept (clear.files (b := [_]) found) found) summary
  have records' := clear.loadRecords_eq_ok takes read confined tree records
  refine ⟨fun found => confined.kept (clear.files found) found, ?_⟩
  simp [Recording.load, summary, summary', records, records']

end StandsClear

end Artifacts

/-! ## Commands -/

namespace Command

variable {τ σ : Type}

/-- A command that generates mutants makes a run into its output folder, if it changes anything. -/
theorem generateWith_eq (o : GenerateOrder) (m : Model σ) (c : Config) (said : List String)
    (s : World × σ) :
    (generateWith o m c said s).2 = s ∨ (generateWith o m c said s).1.code ≠ 2 ∧
      ∃ template files, (generateWith o m c said s).2 =
        ((⟨c, template, o.queryOptions, some o.outputFolder⟩ : Job).generate m files s).2 := by
  unfold generateWith
  split
  next => exact .inl rfl
  next template _ =>
    split
    next => exact .inl rfl
    next files _ =>
      refine .inr ?_
      rcases run : (⟨c, template, o.queryOptions, some o.outputFolder⟩ : Job).generate m files s
        with ⟨_ | _, s'⟩
      all_goals exact ⟨by simp [fail, run], template, files, by simp [run]⟩

/-- A replay of a run that can be read makes a run into the output folder, if it changes
anything. -/
theorem replayRun_cases {o : GenerateOrder} {ending : Ending}
    (h : replayRun o folder w = (ending, w')) :
    ending.code = 2 ∧ w' = w ∨ ∃ recording, Recording.load w folder = .ok recording ∧
      (w' = w ∨ ending.code ≠ 2 ∧ ∃ (j : Job) (c : Config) (files : List SourceFile),
        j.output = some o.outputFolder ∧
          w' = (j.generate (.replay c) files (w, recording.records)).2.1) := by
  unfold replayRun at h
  split at h
  next =>
    obtain ⟨rfl, rfl⟩ := Prod.mk.inj h
    exact .inl ⟨rfl, rfl⟩
  next recording loaded =>
    dsimp only at h
    split at h
    next =>
      obtain ⟨rfl, rfl⟩ := Prod.mk.inj h
      exact .inl ⟨rfl, rfl⟩
    next =>
      obtain ⟨rfl, rfl⟩ := Prod.mk.inj h
      refine .inr ⟨recording, loaded, ?_⟩
      obtain same | ⟨code, template, files, made⟩ := generateWith_eq o (.replay _) _ _ (w, _)
      · exact .inl (congrArg Prod.fst same)
      · exact .inr ⟨code, ⟨_, template, o.queryOptions, _⟩, _, files, rfl, congrArg Prod.fst made⟩

/-- Two paths that lead to one folder are told to be the same. -/
theorem sameFolder_of_address_eq {avoided : Address} {p q : Path} {rp rq : Route}
    (tree : w.IsTree) (takesP : w.Takes avoided p rp) (takesQ : w.Takes avoided q rq)
    (fitP : p.IsFit rp) (fitQ : q.IsFit rq) (here : w.get? rp.address = some .folder)
    (same : rp.address = rq.address) : sameFolder w p q = true := by
  have first := takesP.canonical?_eq_some tree fitP here
  have second := takesQ.canonical?_eq_some tree fitQ (same ▸ here)
  simp [sameFolder, first, second, same]

/-- A recorded run stands in a folder. -/
theorem get?_of_load {avoided : Address} (tree : w.IsTree) (takes : w.Takes avoided folder r)
    (h : Recording.load w folder = .ok recording) : w.get? r.address = some .folder := by
  obtain ⟨-, content, -, read, -⟩ := Artifacts.exists_of_load h
  have found := ((takes.read_join_eq_ok Artifacts.isName_summaryName).1 read).2.2.2
  have stands : w.get? (Text.bytes Artifacts.summaryName :: r.address) ≠ none := by simp [found]
  exact tree.get?_tail stands

/-- A replay does the run that it replays no harm. Whenever the command ends with code 2, it has
changed nothing. With an output folder that is that of the run, it is refused; with one that stands
clear of the run, the files there stay as they are and the run reads back as before. -/
theorem replayed_run_unharmed {o : GenerateOrder} (replay : o.replay = some folder)
    (e : Surroundings τ) {s s' : World × τ} {ending : Ending}
    (h : runGenerate o e s = (ending, s')) :
    (ending.code = 2 → s' = s) ∧
      ∀ r r', s.1.IsTree → s.1.Takes (promptsAt r') folder r →
        s.1.Takes (promptsAt r') o.outputFolder r' →
        (r.address = r'.address → folder.IsFit r → o.outputFolder.IsFit r' → ending.code = 2) ∧
          (Artifacts.StandsClear s.1 r r' → Artifacts.Unharmed folder r s.1 s'.1) := by
  have refused (code : ending.code = 2) (same : s' = s) :
      (ending.code = 2 → s' = s) ∧
        ∀ r r', s.1.IsTree → s.1.Takes (promptsAt r') folder r →
          s.1.Takes (promptsAt r') o.outputFolder r' →
          (r.address = r'.address → folder.IsFit r → o.outputFolder.IsFit r' → ending.code = 2) ∧
            (Artifacts.StandsClear s.1 r r' → Artifacts.Unharmed folder r s.1 s'.1) := by
    subst same
    exact ⟨fun _ => rfl, fun r _ _ _ _ => ⟨fun _ _ _ => code, fun _ => .refl folder r _⟩⟩
  unfold runGenerate at h
  simp only [replay] at h
  split at h
  next =>
    obtain ⟨rfl, rfl⟩ := Prod.mk.inj h
    exact refused rfl rfl
  next =>
    split at h
    next =>
      obtain ⟨rfl, rfl⟩ := Prod.mk.inj h
      exact refused rfl rfl
    next distinct =>
      rcases run : replayRun o folder s.1 with ⟨ending', w'⟩
      rw [run] at h
      obtain ⟨rfl, rfl⟩ := Prod.mk.inj h
      obtain ⟨code, rfl⟩ | ⟨recording, loaded, made⟩ := replayRun_cases run
      · exact refused code rfl
      refine ⟨fun code => ?_, fun r r' tree takes takesOutput => ⟨fun same fit fitOutput => ?_,
        fun clear => ?_⟩⟩
      · obtain rfl | ⟨accepted, -⟩ := made
        · rfl
        · exact absurd code accepted
      · exact absurd (sameFolder_of_address_eq tree takes takesOutput fit fitOutput
          (get?_of_load tree takes loaded) same) distinct
      · obtain rfl | ⟨-, j, c, files, output, rfl⟩ := made
        · exact .refl folder r s.1
        · refine clear.unharmed tree takes ?_ loaded
          exact Job.confined_of_generate (s := (s.1, recording.records)) output (fun _ _ _ => rfl)
            takesOutput rfl

section Recorded

/-- The order to replay one folder into another. -/
def replayOrder (replay output : String) : GenerateOrder where
  package := .ofString "p"
  config := Config.standard
  lineList := none
  isCached := false
  cacheFolder := .ofString "c"
  replay := some (.ofString replay)
  providers := none
  output := some (.ofString output)
  asJson := false
  isQuiet := true

def nowhere : Surroundings Unit := ⟨[], ⟨fun _ _ s => (.error (.status 500 ""), 0, s)⟩, []⟩

/-- The mutant of the recorded run. -/
def recordedMutant : Mutant :=
  .ofCandidate ⟨.between "a.py" (1, 0) (1, 1), "f", "g", .valid⟩ 1

/-- A package without files, and a run recorded in a folder. -/
def recordedAt (r : Route) (folders : List Address) : World :=
  ⟨([Text.bytes "p"], .folder) :: folders.map (·, .folder) ++
    [(Text.bytes Artifacts.summaryName :: r.address,
        Artifacts.summaryFile { RunSummary.start Config.standard with nrPrompts := 1 }),
      (Text.bytes Artifacts.mutantsName :: r.address, Artifacts.mutantsFile [recordedMutant])], []⟩

/-- The recorded run reads back; it has no records of prompts. -/
theorem load_recordedAt {folder : Path} {r : Route} {folders : List Address}
    (read : (recordedAt r folders).read (Artifacts.summaryPath folder) =
      .ok (Text.bytes { RunSummary.start Config.standard with nrPrompts := 1 }.toJson.page))
    (missing : (recordedAt r folders).list (Artifacts.promptsPath folder) = .error .missing) :
    Recording.load (recordedAt r folders) folder = .ok ⟨Config.standard, []⟩ :=
  Recording.load_of_read (RunSummary.fits_of_counts rfl (by decide) (by decide)) read
    (by simp [Artifacts.loadRecords, missing])

/-- The replay of a run that reads back. -/
theorem runGenerate_replayOrder {w : World} {replay : String} (output : String)
    (package : w.isFolder (.ofString "p") = true)
    (distinct : sameFolder w (.ofString replay) (.ofString output) = false)
    (loaded : Recording.load w (.ofString replay) = .ok ⟨Config.standard, []⟩) :
    runGenerate (replayOrder replay output) nowhere (w, ()) =
      let made := generateWith (replayOrder replay output) (.replay Config.standard)
        Config.standard [] (w, [])
      (made.1, made.2.1, ()) := by
  have valid : Config.standard.validate = .ok () := by decide +kernel
  have quiet : ∀ line, (replayOrder replay output).say line = [] := fun _ => rfl
  have whole : { Config.standard with
      mutate := (replayOrder replay output).config.mutate
      ignore := (replayOrder replay output).config.ignore } = Config.standard := rfl
  have run : replayRun (replayOrder replay output) (.ofString replay) w =
      let made := generateWith (replayOrder replay output) (.replay Config.standard)
        Config.standard [] (w, [])
      (made.1, made.2.1) := by
    simp only [replayRun, loaded, whole, valid, quiet]
  have asked : (replayOrder replay output).package = .ofString "p" ∧
    (replayOrder replay output).replay = some (.ofString replay) ∧
      (replayOrder replay output).outputFolder = .ofString output := ⟨rfl, rfl, rfl⟩
  simp [runGenerate, asked, package, distinct, run]

/-- A replay into a folder beside the recorded run is carried out and does it no harm; one into the
same folder, spelled in another way, is refused. -/
theorem replayed_run_unharmed_beside :
    let r : Route := ⟨0, [], [Text.bytes "r"]⟩
    let w := recordedAt r [r.address]
    ∃ ending s', runGenerate (replayOrder "r" "o") nowhere (w, ()) = (ending, s') ∧
      ending.code = 0 ∧ Artifacts.Unharmed (.ofString "r") r w s'.1 ∧
      ∃ ending' v', runGenerate (replayOrder "r" "./r/") nowhere (w, ()) = (ending', v') ∧
        ending'.code = 2 ∧ v'.1 = w := by
  intro r w
  let o : Route := ⟨0, [], [Text.bytes "o"]⟩
  have tree : w.IsTree := by constructor <;> decide +kernel
  have links : w.hasNoLinks = true := by decide +kernel
  have takes : ∀ {avoided}, ¬ avoided <:+ [] → w.Takes avoided (.ofString "r") r := fun free =>
    World.Takes.of_names (by decide +kernel) tree links (by decide) free
  have loaded : Recording.load w (.ofString "r") = .ok ⟨Config.standard, []⟩ :=
    load_recordedAt (by rfl) (by rfl)
  have accepted : (runGenerate (replayOrder "r" "o") nowhere (w, ())).1.code = 0 := by
    rw [runGenerate_replayOrder _ (by decide +kernel) (by decide +kernel) loaded]
    decide +kernel
  have apart : Artifacts.IsApart r o := by constructor <;> decide
  rcases h : runGenerate (replayOrder "r" "o") nowhere (w, ()) with ⟨ending, s'⟩
  have unharmed := ((replayed_run_unharmed rfl nowhere h).2 r o tree (takes (by decide))
    (World.Takes.of_names (by decide +kernel) tree links (by decide) (by decide))).2
    (apart.standsClear w)
  -- the other path leads to the folder of the recorded run
  rcases h' : runGenerate (replayOrder "r" "./r/") nowhere (w, ()) with ⟨ending', v'⟩
  have fit : ∀ {p : Path}, p = .ofString "r" ∨ p = .ofString "./r/" → p.IsFit r := by
    rintro p (rfl | rfl) <;> constructor
    case inl.usable | inr.usable => constructor <;> decide
    all_goals decide
  obtain ⟨same, refused⟩ := replayed_run_unharmed rfl nowhere h'
  have refused := (refused r r tree (takes (by decide))
    (World.Takes.of_names (by decide +kernel) tree links (by decide) (by decide))).1
    rfl (fit (.inl rfl)) (fit (.inr rfl))
  rw [h] at accepted
  refine ⟨ending, s', rfl, accepted, unharmed, ending', v', rfl, refused, ?_⟩
  rw [same refused]

/-- What `replayed_run_unharmed` relies on: where the output path goes up from a folder that is not
there yet, its folder is not told to be the same, and the recorded mutants are replaced; and a run
that is recorded among the records of the output folder is cleared with them. -/
theorem replayed_run_harmed :
    let r : Route := ⟨0, [], [Text.bytes "r"]⟩
    let w := recordedAt r [r.address]
    let inner : Route := ⟨0, [], [Text.bytes "o", Text.bytes "prompts", Text.bytes "r"]⟩
    let v := recordedAt inner (inner.names.inits.tail.map List.reverse)
    (∃ ending s', runGenerate (replayOrder "r" "x/../r") nowhere (w, ()) = (ending, s') ∧
      ending.code = 0 ∧ ¬ Artifacts.Unharmed (.ofString "r") r w s'.1) ∧
    ∃ ending s', runGenerate (replayOrder "o/prompts/r" "o") nowhere (v, ()) = (ending, s') ∧
      ending.code = 0 ∧ ¬ Artifacts.Unharmed (.ofString "o/prompts/r") inner v s'.1 := by
  intro r w inner v
  constructor
  · have loaded : Recording.load w (.ofString "r") = .ok ⟨Config.standard, []⟩ :=
      load_recordedAt (by rfl) (by rfl)
    have run := runGenerate_replayOrder (w := w) "x/../r" (by decide +kernel)
      (by decide +kernel) loaded
    have accepted : (runGenerate (replayOrder "r" "x/../r") nowhere (w, ())).1.code = 0 := by
      rw [run]
      decide +kernel
    have replaced : (runGenerate (replayOrder "r" "x/../r") nowhere (w, ())).2.1.get?
        (Text.bytes Artifacts.mutantsName :: r.address) ≠
          some (Artifacts.mutantsFile [recordedMutant]) := by
      rw [run]
      decide +kernel
    rcases h : runGenerate (replayOrder "r" "x/../r") nowhere (w, ()) with ⟨ending, s'⟩
    rw [h] at accepted replaced
    exact ⟨ending, s', rfl, accepted, fun unharmed => replaced (unharmed.files (b := [_]) rfl)⟩
  · have loaded : Recording.load v (.ofString "o/prompts/r") = .ok ⟨Config.standard, []⟩ :=
      load_recordedAt (by rfl) (by rfl)
    have run := runGenerate_replayOrder (w := v) "o" (by decide +kernel)
      (by decide +kernel) loaded
    have accepted : (runGenerate (replayOrder "o/prompts/r" "o") nowhere (v, ())).1.code = 0 := by
      rw [run]
      decide +kernel
    have cleared : (runGenerate (replayOrder "o/prompts/r" "o") nowhere (v, ())).2.1.get?
        (Text.bytes Artifacts.mutantsName :: inner.address) = none := by
      rw [run]
      decide +kernel
    rcases h : runGenerate (replayOrder "o/prompts/r" "o") nowhere (v, ()) with ⟨ending, s'⟩
    rw [h] at accepted cleared
    refine ⟨ending, s', rfl, accepted, fun unharmed => ?_⟩
    exact absurd (cleared.symm.trans (unharmed.files (b := [_]) rfl)) (by simp)

end Recorded

end Command

end Mutagenesis
