import Mutagenesis.Proofs.Model.Caching
import Mutagenesis.Proofs.Run.Output
import Mutagenesis.Proofs.Run.Unfinished

/-!
# Runs that break off

A run breaks off when one of its files cannot be written, be it the record of a prompt, the mutants
or the summary. `BreaksOff` is such a run, whatever the reason for the failed write: it goes its way
up to there. What it leaves is not mistaken for a finished run, and the records that can be read are
those that it has written.
-/
namespace Mutagenesis

open Files (Address Entry World Route isName)
open Artifacts (Ongoing LeavesAlone promptsAt recordName)

/-! ## Queries of a cached model -/

section

variable {w : World} {folder cache : Path} {r rc : Route} {avoided : Address}

/-- Entries of a cache are neither records nor a summary, wherever the cache is kept. -/
theorem Cache.leavesAlone_store {entry : CacheEntry} (hkey : IsKey entry.fingerprint)
    (takes : w.Takes avoided cache rc) :
    LeavesAlone folder r w (store w cache entry).2 := by
  have made : LeavesAlone folder r w (prepared w cache entry.fingerprint) :=
    Artifacts.leavesAlone_makeFolders w _
  rcases stored : store w cache entry with ⟨fault | ⟨⟩, w'⟩
  · rwa [eq_of_store_error stored]
  · obtain ⟨a, located, noFolder, rfl⟩ := store_eq_ok stored
    have takes' : (prepared w cache entry.fingerprint).Takes avoided cache rc :=
      takes.keeps (World.keeps_makeFolders w _)
    rw [entryPath_eq] at located
    obtain ⟨-, -, -, rfl⟩ :=
      ((takes'.join hkey.isName_shard).locate_join_eq_ok hkey.isName_file).1 located
    rw [Route.address_into] at noFolder ⊢
    refine made.trans (Artifacts.leavesAlone_put_file noFolder (takes'.below [_, _]) ?_ ?_)
    · intro name same
      have shard := congrArg List.length (List.cons.inj (List.cons.inj same).2).1
      rw [hkey.length_shard] at shard
      exact absurd shard (by decide)
    · intro same
      have file := congrArg List.length (List.cons.inj same).1
      rw [hkey.length_file] at file
      exact absurd file (by decide)

/-- So a cached model leaves the output folder of a run alone where the inner model does. -/
theorem Model.leavesAlone_cached {σ : Type} {m : Model σ} {text : String} {options : Options}
    {s : σ} (inner : LeavesAlone folder r w (m.query text options (w, s)).2.1)
    (takes : (m.query text options (w, s)).2.1.Takes avoided cache rc) :
    LeavesAlone folder r w ((m.cached cache).query text options (w, s)).2.1 := by
  simp only [cached]
  split
  next => exact .refl folder r w
  next =>
    rcases said : m.query text options (w, s) with ⟨failure | answer, w', s'⟩
    · rwa [said] at inner
    · rw [said] at inner takes
      have hkey : Cache.IsKey (Cache.entryOf m.profile text options answer).fingerprint :=
        Cache.isKey_fingerprint m.profile text options
      dsimp only
      exact inner.trans (Cache.leavesAlone_store hkey takes)

end

namespace Job

variable {σ : Type} {j : Job} {m : Model σ} {folder : Path} {r : Route}

/-! ## The way up to a failed write -/

/-- Whether a run that has come so far sends a prompt for a specification, and what comes of it. -/
inductive Asks (j : Job) (m : Model σ) (file : SourceFile) (spec : PromptSpec) (p : Progress)
    (s : World × σ) : Turn → World × σ → Prop
  | intro {code outcome s'} (room : j.isFull p = false)
      (fits : spec.codeWithPlaceholder file.text = some code)
      (kept : spec.isSkipped j.config = false)
      (answer : m.query (render j.template code spec) j.options s = (outcome, s')) :
      Asks j m file spec p s
        ⟨file, ⟨p.prompts.nextId, render j.template code spec, spec⟩, outcome, s.1, s'.1⟩ s'

/-- A run into a folder that has been cleared and in which a file cannot be written: the turns that
came before, those in which the model was asked, and the files that are left. -/
inductive BreaksOff (j : Job) (m : Model σ) (folder : Path) (r : Route) (files : List SourceFile)
    (s : World × σ) : List Turn → List Turn → World → Prop
  | record {w₁ front file spec more ts p s₁ t s₂ x w'}
      (cleared : j.clear s.1 = (.ok (), w₁))
      (specs : specsOf files = front ++ (file, spec) :: more)
      (way : Visits j m front (.start j.config) (w₁, s.2) ts p s₁)
      (asks : Asks j m file spec p s₁ t s₂) (record : t.record? = some x)
      (failed : World.FailsAt (recordName x.id :: promptsAt r) s₂.1 w') :
      BreaksOff j m folder r files s ts (ts ++ [t]) w'
  | mutants {w₁ ts p s₁ w'} (cleared : j.clear s.1 = (.ok (), w₁))
      (way : Visits j m (specsOf files) (.start j.config) (w₁, s.2) ts p s₁)
      (failed : World.FailsAt (Text.bytes Artifacts.mutantsName :: r.address) s₁.1 w') :
      BreaksOff j m folder r files s ts ts w'
  | summary {w₁ ts p s₁ w₂ w'} (cleared : j.clear s.1 = (.ok (), w₁))
      (way : Visits j m (specsOf files) (.start j.config) (w₁, s.2) ts p s₁)
      (saved : Artifacts.saveMutants s₁.1 folder p.mutants = (.ok (), w₂))
      (failed : World.FailsAt (Text.bytes Artifacts.summaryName :: r.address) w₂ w') :
      BreaksOff j m folder r files s ts ts w'

/-- A run that meets a fault on its way through specifications meets it when it saves a prompt. -/
theorem asks_of_visitAll_error {specs : List (SourceFile × PromptSpec)} {p : Progress}
    {s s' : World × σ} {fault : ArtifactFault}
    (h : j.visitAll m specs p s = (.error fault, s')) :
    ∃ front file spec more ts p₁ s₁ t s₂, specs = front ++ (file, spec) :: more ∧
      Visits j m front p s ts p₁ s₁ ∧ Asks j m file spec p₁ s₁ t s₂ ∧
      j.save t.prompt t.outcome s₂.1 = (.error fault, s'.1) ∧
      j.turnsFrom m specs p s = ts ++ [t] := by
  induction specs generalizing p s with
  | nil => simp [visitAll] at h
  | cons x more ih =>
      obtain ⟨file, spec⟩ := x
      cases room : j.isFull p with
      | true => simp [visitAll_of_isFull room] at h
      | false =>
          cases fits : spec.codeWithPlaceholder file.text with
          | none =>
              simp only [visitAll_of_none room fits] at h ⊢
              obtain ⟨front, file', spec', more', ts, p₁, s₁, t, s₂, rfl, way, rest⟩ := ih h
              exact ⟨_ :: front, file', spec', more', ts, p₁, s₁, t, s₂, rfl,
                .unfit room fits way, rest⟩
          | some code =>
              cases kept : spec.isSkipped j.config with
              | true =>
                  simp only [visitAll_of_isSkipped room fits kept] at h ⊢
                  obtain ⟨front, file', spec', more', ts, p₁, s₁, t, s₂, rfl, way, rest⟩ := ih h
                  exact ⟨_ :: front, file', spec', more', ts, p₁, s₁, t, s₂, rfl,
                    .filtered room fits kept way, rest⟩
              | false =>
                  rcases answer : m.query (render j.template code spec) j.options s with
                    ⟨outcome, s₁⟩
                  rcases saved : j.save
                    ⟨p.prompts.nextId, render j.template code spec, spec⟩ outcome s₁.1 with
                    ⟨fault' | ⟨⟩, w₂⟩
                  · simp only [visitAll_of_unsaved room fits kept answer saved, Prod.mk.injEq,
                      Except.error.injEq] at h ⊢
                    obtain ⟨rfl, rfl⟩ := h
                    exact ⟨[], file, spec, more, [], p, s, _, _, rfl, .done,
                      .intro room fits kept answer, saved, rfl⟩
                  · simp only [visitAll_of_asks room fits kept answer saved] at h ⊢
                    obtain ⟨front, file', spec', more', ts, p₁, s₁, t, s₂, rfl, way, asks, failed,
                      turns⟩ := ih h
                    exact ⟨_ :: front, file', spec', more', _, p₁, s₁, t, s₂, rfl,
                      .asked room fits kept answer saved way, asks, failed,
                      congrArg (_ :: ·) turns⟩

/-- A run that has cleared its folder and meets a fault breaks off. -/
theorem breaksOff_of_generate {files : List SourceFile} {s s' : World × σ} {w₁ : World}
    {fault : ArtifactFault} (output : j.output = some folder)
    (cleared : j.clear s.1 = (.ok (), w₁)) (h : j.generate m files s = (.error fault, s')) :
    ∃ ts, j.BreaksOff m folder r files s ts (j.turns m files s) s'.1 := by
  simp only [generate, cleared] at h
  simp only [turns, cleared]
  rcases visited : j.visitAll m (specsOf files) (.start j.config) (w₁, s.2) with
    ⟨fault' | p, w₂, s₂⟩
  · simp only [visited, Prod.mk.injEq] at h
    obtain ⟨-, rfl⟩ := h
    obtain ⟨front, file, spec, more, ts, p, s₁, t, s₂, specs, way, asks, failed, turns⟩ :=
      asks_of_visitAll_error visited
    rw [turns]
    unfold save at failed
    cases record : recordOf? t.prompt t.outcome with
    | none => simp [output, record] at failed
    | some x =>
        simp only [output, record] at failed
        exact ⟨ts, .record cleared specs way asks record (Artifacts.failsAt_of_writeJson _ failed)⟩
  · have way := visits_of_visitAll visited
    refine ⟨j.turnsFrom m (specsOf files) (.start j.config) (w₁, s.2), ?_⟩
    simp only [visited] at h
    unfold saveResult at h
    simp only [output] at h
    rcases mutants : Artifacts.saveMutants w₂ folder p.mutants with ⟨fault' | ⟨⟩, w₃⟩
    · simp only [mutants, Prod.mk.injEq] at h
      obtain ⟨-, rfl⟩ := h
      exact .mutants cleared way (Artifacts.failsAt_of_writeJson _ mutants)
    · simp only [mutants] at h
      rcases summary : Artifacts.saveSummary w₃ folder
        (p.summary.setFailures (m.counter s₂)) with ⟨fault' | ⟨⟩, w₄⟩
      · simp only [summary, Prod.mk.injEq] at h
        obtain ⟨-, rfl⟩ := h
        exact .summary cleared way mutants (Artifacts.failsAt_of_writeJson _ summary)
      · simp [summary] at h

/-! ## What is left -/

/-- On its way a run adds the record of each turn to those of which its folder tells. -/
theorem Visits.ongoing {records : List PromptRecord} (output : j.output = some folder)
    {specs : List (SourceFile × PromptSpec)} {p p' : Progress} {s s' : World × σ} {ts : List Turn}
    (way : Visits j m specs p s ts p' s')
    (alone : ∀ t ∈ ts, LeavesAlone folder r t.before t.after)
    (h : Ongoing s.1 folder r records) (old : ∀ x ∈ records, x.id < p.prompts.nextId) :
    Ongoing s'.1 folder r (records ++ ts.filterMap Turn.record?) ∧
      ∀ x ∈ records ++ ts.filterMap Turn.record?, x.id < p'.prompts.nextId := by
  induction way generalizing records with
  | done | full => simpa using ⟨h, old⟩
  | unfit _ _ _ ih => exact ih alone h old
  | filtered _ _ _ _ ih => exact ih alone h fun x hx => Nat.lt_succ_of_lt (old x hx)
  | @asked file spec more p s ts p' s' code outcome s₁ w₂ _ _ _ _ saved _ ih =>
      rw [List.forall_mem_cons] at alone
      have asked := h.leftAlone alone.1
      have later : ∀ x ∈ records, x.id < p.prompts.nextId + 1 :=
        fun x hx => Nat.lt_succ_of_lt (old x hx)
      unfold save at saved
      rw [List.filterMap_cons, Turn.record?]
      cases record : recordOf? ⟨p.prompts.nextId, render j.template code spec, spec⟩ outcome with
      | none =>
          simp only [output, record, Prod.mk.injEq, true_and] at saved
          subst saved
          exact ih alone.2 asked (by rwa [nextId_after])
      | some x =>
          simp only [output, record] at saved
          have number : x.id = p.prompts.nextId := id_of_recordOf? record
          have written := Artifacts.ongoing_of_saveRecord asked (by rwa [number]) saved
          have numbered : ∀ y ∈ records ++ [x], y.id < p.prompts.nextId + 1 := by
            intro y hy
            obtain hy | rfl := List.mem_append.1 hy |>.imp_right List.mem_singleton.1
            · exact later y hy
            · exact number ▸ Nat.lt_succ_self _
          simpa using ih alone.2 written (by rwa [nextId_after])

end Job

/-- What can be read from the output folder of a run that has broken off: these records, and no run
that has come to its end. -/
structure Artifacts.TellsOnlyOf (w : World) (folder : Path) (records : List PromptRecord) :
    Prop where
  summary : ∀ s, loadSummary w folder ≠ .ok s
  recording : ∀ recording, Recording.load w folder ≠ .ok recording
  records : ∀ name x, isName name = true →
    (readJson w ((promptsPath folder).join ⟨name⟩) PromptRecord.decoder = .ok x ↔
      x ∈ records ∧ name = recordName x.id)

theorem Artifacts.Ongoing.tellsOnlyOf {w w' : World} {folder : Path} {r : Route}
    {records : List PromptRecord} {a : Address} (h : Ongoing w folder r records)
    (failed : World.FailsAt a w w') (other : ∀ y ∈ records, recordName y.id :: promptsAt r ≠ a)
    (fits : ∀ y ∈ records, y.Fits) : TellsOnlyOf w' folder records :=
  ⟨h.loadSummary_ne_ok failed, h.load_ne_ok failed,
    fun _ _ hname => h.readJson_record failed other fits hname⟩

namespace Job

variable {σ : Type} {j : Job} {m : Model σ} {folder : Path} {r : Route}

theorem BreaksOff.tellsOnlyOf {files : List SourceFile} {s : World × σ} {ts asked : List Turn}
    {w' : World} (output : j.output = some folder) (tree : s.1.IsTree)
    (takes : s.1.Takes (promptsAt r) folder r) (h : j.BreaksOff m folder r files s ts asked w')
    (alone : ∀ t ∈ asked, LeavesAlone folder r t.before t.after)
    (fits : ∀ x ∈ ts.filterMap Turn.record?, x.Fits) :
    Artifacts.TellsOnlyOf w' folder (ts.filterMap Turn.record?) := by
  have start : ∀ {w₁}, j.clear s.1 = (.ok (), w₁) → Ongoing w₁ folder r [] := by
    intro w₁ cleared
    rw [clear, output] at cleared
    exact Artifacts.ongoing_of_clear tree takes cleared
  have apart : ∀ {name} (y : PromptRecord), recordName y.id :: promptsAt r ≠ name :: r.address :=
    fun y => (Artifacts.atFolder_ne_record _).symm
  cases h with
  | record cleared _ way asks record failed =>
      obtain ⟨before, last⟩ := List.forall_mem_append.1 alone
      obtain ⟨ongoing, old⟩ := way.ongoing output before (start cleared) (by simp)
      rw [List.nil_append] at ongoing old
      cases asks with
      | intro _ _ _ answer =>
          have ongoing := ongoing.leftAlone (last _ List.mem_cons_self)
          refine ongoing.tellsOnlyOf failed (fun y hy same => ?_) fits
          -- the record that failed has a number that no record before it has
          have number := Artifacts.recordName_injective (List.cons.inj same).1
          have fresh := old y hy
          rw [number, id_of_recordOf? record] at fresh
          exact Nat.lt_irrefl _ fresh
  | mutants cleared way failed =>
      obtain ⟨ongoing, -⟩ := way.ongoing output alone (start cleared) (by simp)
      exact ongoing.tellsOnlyOf failed (fun y _ => apart y) fits
  | summary cleared way saved failed =>
      obtain ⟨ongoing, -⟩ := way.ongoing output alone (start cleared) (by simp)
      exact (Artifacts.ongoing_of_saveMutants ongoing saved).tellsOnlyOf failed
        (fun y _ => apart y) fits

/-- A run that breaks off is not mistaken for one that has come to its end: no summary can be read
from its folder, no run is replayed from there, and the records are those of the turns before the
write that failed. Each run that meets a fault after clearing its folder breaks off. -/
theorem broken_run_is_unfinished {files : List SourceFile} {s : World × σ}
    (output : j.output = some folder) (tree : s.1.IsTree)
    (takes : s.1.Takes (promptsAt r) folder r) :
    (∀ w₁ fault s', j.clear s.1 = (.ok (), w₁) → j.generate m files s = (.error fault, s') →
        ∃ ts, j.BreaksOff m folder r files s ts (j.turns m files s) s'.1) ∧
      ∀ ts asked w', j.BreaksOff m folder r files s ts asked w' →
        (∀ t ∈ asked, LeavesAlone folder r t.before t.after) →
        (∀ x ∈ ts.filterMap Turn.record?, x.Fits) →
        Artifacts.TellsOnlyOf w' folder (ts.filterMap Turn.record?) :=
  ⟨fun _ _ _ cleared h => breaksOff_of_generate output cleared h,
    fun _ _ _ h alone fits => h.tellsOnlyOf output tree takes alone fits⟩

/-- Into a folder with the summary of an earlier run and a record of it under the same number, a run
writes its first record and breaks off at the second, which is left empty. -/
theorem unfinished_at_second_record :
    let f : PromptSpec := ⟨.between "a.py" (1, 0) (1, 1), "f", "callee"⟩
    let x : PromptSpec := ⟨.between "a.py" (1, 2) (1, 3), "x", "name"⟩
    let file : SourceFile := ⟨"a.py", .python, "f(x)\n", [f, x]⟩
    let j : Job := ⟨Config.standard, "\x7b\x7borig\x7d\x7d", .none, some (.ofString "o")⟩
    let m := Model.scripted ⟨"m", .zero, 1, ""⟩
    let r : Route := ⟨0, [], [Text.bytes "o"]⟩
    let stale : PromptRecord := ⟨2, "t", .between "a.py" (1, 0) (1, 1), .failed⟩
    let w : World := ⟨[(r.address, .folder), (promptsAt r, .folder),
      (recordName 2 :: promptsAt r, .file (Text.bytes stale.toJson.page)),
      (Text.bytes "summary.json" :: r.address, Artifacts.summaryFile (.start Config.standard))], []⟩
    let answers : List (Except Failure Answer) := [.ok ⟨["y"], ⟨3, 4, 7⟩⟩, .ok ⟨["z"], .zero⟩]
    let first : PromptRecord := ⟨1, "f", f.location, .completed ⟨["y"], ⟨3, 4, 7⟩⟩⟩
    ∃ ts asked w', j.BreaksOff m (.ofString "o") r [file] (w, answers) ts asked w' ∧
      asked.map (·.prompt.id) = [1, 2] ∧ w'.get? (recordName 2 :: promptsAt r) = some (.file []) ∧
      Artifacts.TellsOnlyOf w' (.ofString "o") [first] := by
  intro f x file j m r stale w answers first
  let p := Progress.start j.config
  let prompt : Prompt := ⟨p.prompts.nextId, render j.template "<PLACEHOLDER>(x)\n" f, f⟩
  let y : Answer := ⟨["y"], ⟨3, 4, 7⟩⟩
  obtain ⟨start, cleared, w₂, saved, free⟩ : ∃ start, j.clear w = (.ok (), start) ∧
      ∃ w₂, j.save prompt (.ok y) start = (.ok (), w₂) ∧
        w₂.get? (recordName 2 :: promptsAt r) = none :=
    ⟨_, Prod.ext (eq_ok_of_toOption (by decide +kernel)) rfl, _,
      Prod.ext (eq_ok_of_toOption (by decide +kernel)) rfl, by decide +kernel⟩
  let t : Turn := ⟨file, prompt, .ok y, start, start⟩
  have way : Visits j m [(file, f)] p (start, answers) [t] (j.after p t)
      (w₂, [.ok ⟨["z"], .zero⟩]) :=
    .asked rfl (by decide) (by decide) rfl saved .done
  have number : (j.after p t).prompts.nextId = 2 := nextId_after j p t
  let prompt' : Prompt :=
    ⟨(j.after p t).prompts.nextId, render j.template "f(<PLACEHOLDER>)\n" x, x⟩
  let t' : Turn := ⟨file, prompt', .ok ⟨["z"], .zero⟩, w₂, w₂⟩
  have room : j.isFull (j.after p t) = false := by
    simp only [isFull, nrPrompts_after]
    decide
  have asks : Asks j m file x (j.after p t) (w₂, [.ok ⟨["z"], .zero⟩]) t' (w₂, []) :=
    .intro room (by decide) (by decide) rfl
  have record : t'.record? = some ⟨2, prompt'.text, x.location, .completed ⟨["z"], .zero⟩⟩ := by
    simp only [Turn.record?, recordOf?, t', prompt', number]
  have breaks : j.BreaksOff m (.ofString "o") r [file] (w, answers) [t] [t, t']
      (w₂.put (recordName 2 :: promptsAt r) (.file [])) :=
    .record (r := r) cleared rfl way asks record
      (World.failsAt_put_nil (List.cons_ne_nil _ _) (by simp [free]))
  have records : [t].filterMap Turn.record? = [first] := by
    have text : render j.template "<PLACEHOLDER>(x)\n" f = "f" := by decide +kernel
    simp [t, Turn.record?, recordOf?, prompt, text, first, p, Progress.start, PromptSequence.start,
      y]
  have tree : w.IsTree := by constructor <;> decide +kernel
  have takes : w.Takes (promptsAt r) (.ofString "o") r :=
    Artifacts.takes_of_names (by decide) tree rfl (by decide)
  have alone : ∀ u ∈ [t, t'], LeavesAlone (.ofString "o") r u.before u.after := by
    simp [t, t', LeavesAlone.refl]
  have fits : ∀ x ∈ [t].filterMap Turn.record?, x.Fits := by
    have usage : (⟨3, 4, 7⟩ : Usage).Fits := by decide
    rw [records]
    simpa using (⟨by decide, by decide, usage⟩ : first.Fits)
  have told := (broken_run_is_unfinished rfl tree takes).2 [t] [t, t'] _ breaks alone fits
  rw [records] at told
  have emptied : (w₂.put (recordName 2 :: promptsAt r) (.file [])).get?
      (recordName 2 :: promptsAt r) = some (.file []) := by
    rw [World.get?_put _ _ _ (List.cons_ne_nil _ _), if_pos rfl]
  have asked : [t, t'].map (·.prompt.id) = [1, 2] := by
    simp [t, t', prompt, prompt', p, Progress.start, PromptSequence.start]
  exact ⟨_, _, _, breaks, asked, emptied, told⟩

/-- Whether a run clears its folder, cannot write its mutants and leaves a run that is read back. -/
def IsMistaken (j : Job) (m : Model σ) (s : World × σ) (files : List SourceFile) (folder : Path) :
    Prop :=
  j.output = some folder ∧ (j.clear s.1).1 = .ok () ∧
    ∃ s', j.generate m files s = (.error (.files (Artifacts.mutantsPath folder) .isFolder), s') ∧
      ∃ recording, Recording.load s'.1 folder = .ok recording

theorem isMistaken_of_read {files : List SourceFile} {s : World × σ} {summary : RunSummary}
    {records : List PromptRecord} (output : j.output = some folder)
    (cleared : (j.clear s.1).1 = .ok ())
    (failed : (j.generate m files s).1 = .error (.files (Artifacts.mutantsPath folder) .isFolder))
    (fits : summary.Fits)
    (read : (j.generate m files s).2.1.read (Artifacts.summaryPath folder) =
      .ok (Text.bytes summary.toJson.page))
    (loaded : Artifacts.loadRecords (j.generate m files s).2.1 folder = .ok records) :
    j.IsMistaken m s files folder :=
  ⟨output, cleared, _, Prod.ext failed rfl, _, Recording.load_of_read fits read loaded⟩

theorem fits_start_standard : (RunSummary.start Config.standard).Fits :=
  RunSummary.fits_of_counts rfl (by decide) (by decide)

section Leftover

/-- A job for a folder. -/
def leftoverJob (folder : String) : Job :=
  ⟨Config.standard, "\x7b\x7bcode\x7d\x7d", .none, some (.ofString folder)⟩

/-- The folder `b` with a summary of this content, an entry among its records and a folder in the
place of its mutants. -/
def leftover (content : Bytes) (name : String) (e : Entry) : World :=
  let b : Address := [Text.bytes "b"]
  ⟨[(b, .folder), (Text.bytes "summary.json" :: b, .file content),
    (Text.bytes "mutants.json" :: b, .folder), (Text.bytes "prompts" :: b, .folder),
    (Text.bytes name :: Text.bytes "prompts" :: b, e)], []⟩

/-- The summary of an earlier run. -/
def oldSummary : Bytes := Text.bytes (RunSummary.start Config.standard).toJson.page

/-- A record of an earlier run. -/
def oldRecord : PromptRecord := ⟨7, "t", .between "a.py" (1, 0) (1, 1), .failed⟩

theorem isMistaken_past_parent :
    (leftoverJob "a/../b").IsMistaken (Model.scripted ⟨"m", .zero, 1, ""⟩)
      (leftover oldSummary "x.json" (.file (Text.bytes oldRecord.toJson.page)), []) []
      (.ofString "a/../b") := by
  have readSummary : ∀ content e, ((leftoverJob "a/../b").generate
      (Model.scripted ⟨"m", .zero, 1, ""⟩) [] (leftover content "x.json" e, [])).2.1.read
        (Artifacts.summaryPath (.ofString "a/../b")) = .ok content := by
    intro content e
    rfl
  have readRecord : ((leftoverJob "a/../b").generate
      (Model.scripted ⟨"m", .zero, 1, ""⟩) [] (leftover oldSummary "x.json"
        (.file (Text.bytes oldRecord.toJson.page)), [])).2.1.read
        ((Artifacts.promptsPath (.ofString "a/../b")).join ⟨Text.bytes "x.json"⟩) =
          .ok (Text.bytes oldRecord.toJson.page) := eq_ok_of_toOption (by decide +kernel)
  have fits : oldRecord.Fits := ⟨by decide, by decide, trivial⟩
  exact isMistaken_of_read rfl (by decide +kernel) (by decide +kernel) fits_start_standard
    (readSummary _ _) (loadRecords_of_single (eq_ok_of_toOption (by decide +kernel)) (by decide)
      (Artifacts.readJson_of_read readRecord (PromptRecord.written fits)))

theorem isMistaken_past_records :
    (leftoverJob "b/prompts/x/../..").IsMistaken (Model.scripted ⟨"m", .zero, 1, ""⟩)
      (leftover oldSummary "x" .folder, []) [] (.ofString "b/prompts/x/../..") := by
  have readSummary : ∀ content, ((leftoverJob "b/prompts/x/../..").generate
      (Model.scripted ⟨"m", .zero, 1, ""⟩) [] (leftover content "x" .folder, [])).2.1.read
        (Artifacts.summaryPath (.ofString "b/prompts/x/../..")) = .ok content := by
    intro content
    rfl
  exact isMistaken_of_read rfl (by decide +kernel) (by decide +kernel) fits_start_standard
    (readSummary _) (show _ = Except.ok [] by decide +kernel)

/-- The model that gives no answer and leaves other files. -/
def meddler (w : World) : Model Unit :=
  ⟨⟨"m", .zero, 1, ""⟩, fun _ _ _ => (.error (.unrecorded "f"), w, ()), fun _ => .zero⟩

/-- A file with a call. -/
def callFile : SourceFile :=
  ⟨"a.py", .python, "f(a)\n", [⟨.between "a.py" (1, 2) (1, 3), "a", "f"⟩]⟩

theorem isMistaken_of_meddler :
    (leftoverJob "b").IsMistaken (meddler (leftover oldSummary "x" .folder)) (⟨[], []⟩, ())
      [callFile] (.ofString "b") := by
  have readSummary : ∀ content, ((leftoverJob "b").generate
      (meddler (leftover content "x" .folder)) [callFile] (⟨[], []⟩, ())).2.1.read
        (Artifacts.summaryPath (.ofString "b")) = .ok content := by
    intro content
    rfl
  exact isMistaken_of_read rfl (by decide +kernel) (by decide +kernel) fits_start_standard
    (readSummary _) (show _ = Except.ok [] by decide +kernel)

/-- What the run relies on: an output folder whose path goes up from a folder that is not there yet,
or through its own records, keeps the summary of an earlier run when it is cleared, and a model can
write one itself. -/
theorem mistaken_for_finished :
    let m := Model.scripted ⟨"m", .zero, 1, ""⟩
    let recorded := leftover oldSummary "x.json" (.file (Text.bytes oldRecord.toJson.page))
    let unrecorded := leftover oldSummary "x" .folder
    recorded.IsTree ∧ recorded.hasNoLinks = true ∧
      (leftoverJob "a/../b").IsMistaken m (recorded, []) [] (.ofString "a/../b") ∧
      (leftoverJob "b/prompts/x/../..").IsMistaken m (unrecorded, []) []
        (.ofString "b/prompts/x/../..") ∧
      (leftoverJob "b").IsMistaken (meddler unrecorded) (⟨[], []⟩, ()) [callFile]
        (.ofString "b") :=
  ⟨by constructor <;> decide +kernel, by decide +kernel, isMistaken_past_parent,
    isMistaken_past_records, isMistaken_of_meddler⟩

end Leftover

end Job

end Mutagenesis
