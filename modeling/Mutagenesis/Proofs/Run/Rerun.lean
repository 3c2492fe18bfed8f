import Mutagenesis.Proofs.Flight.Single
import Mutagenesis.Proofs.Run.Accounting
import Mutagenesis.Proofs.Run.Lockstep
import Mutagenesis.Proofs.Run.Mirror
import Mutagenesis.Proofs.Run.Rewriting

/-!
# Runs that are made again

Behind a cache, each answer of a run is found in the cache or stored there, and stays there until
the run ends. So a run that is made again over the same cache finds the answer to every prompt, and
its model is not asked for anything.
-/
namespace Mutagenesis

open Files (Address World Route)
open Artifacts (Recordable Writable promptsAt)
open Cache (IsKey)

/-- Whether the answer to a turn is what a cache finds for its prompt. -/
def Turn.IsFound (p : Profile) (folder : Path) (options : Options) (w : World) (t : Turn) : Prop :=
  ∃ answer, t.outcome = .ok answer ∧
    Cache.lookup w folder (fingerprint p t.prompt.text options) = some answer

namespace Job

variable {σ : Type} {j : Job} {m : Model σ} {folder : Path} {r ro again : Route} {w w' : World}
  {s s₁ : σ} {log log₁ : List Said} {text : String} {outcome : Except Failure Answer}

/-- Whether the paths of the cache and of the output folder of a run take their routes wherever they
can be followed, that of the cache apart from the records of the run that is made again. -/
structure Ready (j : Job) (folder : Path) (r ro again : Route) (w : World) : Prop where
  tree : w.IsTree
  cache : w.Aims (promptsAt again) folder r
  output : ∀ out, j.output = some out → w.Aims (promptsAt ro) out ro

/-- Whether answers that are found before a change are found after it. -/
def Remembers (folder : Path) (w w' : World) : Prop :=
  ∀ {key answer}, IsKey key → Cache.lookup w folder key = some answer →
    Cache.lookup w' folder key = some answer

/-- Whether a query leaves what the cache holds and the routes of a run as they are. -/
structure Respects (j : Job) (folder : Path) (r ro again : Route) (w w' : World) : Prop where
  ready : j.Ready folder r ro again w → j.Ready folder r ro again w'
  remembers : Remembers folder w w'

/-- Whether an answer that a model gives can be stored. -/
def CanStore (p : Profile) (folder : Path) (q : Said) : Prop :=
  ∀ answer, q.outcome = .ok answer → answer.usage.Fits ∧
    (Cache.store q.after folder (Cache.entryOf p q.text q.options answer)).1 = .ok ()

instance (p : Profile) (folder : Path) (q : Said) : Decidable (CanStore p folder q) :=
  match outcome : q.outcome with
  | .error _ => isTrue fun _ ok => nomatch outcome.symm.trans ok
  | .ok answer =>
      decidable_of_iff (answer.usage.Fits ∧
          (Cache.store q.after folder (Cache.entryOf p q.text q.options answer)).1 = .ok ())
        (by simp [CanStore, outcome])

/-- Whether no file stands where the records of an output folder are kept. -/
def HasPlace (ro : Route) (w : World) : Prop :=
  ∀ content, w.get? (promptsAt ro) ≠ some (.file content)

/-- What a run has brought about on its way from the one world to the other: the answers of its
turns are in the cache, and their records were written to the output folder. -/
structure Stored (j : Job) (p : Profile) (folder : Path) (r ro again : Route) (ts : List Turn)
    (w w' : World) : Prop where
  ready : j.Ready folder r ro again w'
  remembers : Remembers folder w w'
  found : ∀ t ∈ ts, t.IsFound p folder j.options w'
  recordable : ∀ out, j.output = some out → ∀ t ∈ ts, ∃ w, Recordable w out ro t.prompt.id
  place : ∀ out, j.output = some out → HasPlace ro w → HasPlace ro w'

/-! ## The first run -/

/-- A change that leaves the entries keeps what the cache holds. -/
theorem Ready.leaves (ready : j.Ready folder r ro again w) (tree : w'.IsTree)
    (outside : ¬ promptsAt again <:+ r.address) (leaves : ∀ avoided, Cache.Leaves avoided r w w') :
    j.Ready folder r ro again w' ∧ Remembers folder w w' := by
  refine ⟨⟨tree, ready.cache.keeps (leaves _).keeps, fun out hout => ?_⟩, fun hkey found => ?_⟩
  · exact (ready.output out hout).keeps (leaves _).keeps
  · exact (leaves _).lookup ready.tree ready.cache hkey (hkey.not_promptsAt_suffix outside) found

/-- Writing a record does so. -/
theorem Ready.save (ready : j.Ready folder r ro again w)
    (outside : ¬ promptsAt again <:+ r.address) (prompt : Prompt)
    (outcome : Except Failure Answer) :
    j.Ready folder r ro again (j.save prompt outcome w).2 ∧
      Remembers folder w (j.save prompt outcome w).2 :=
  ready.leaves (isTree_save ready.tree prompt outcome) outside fun avoided =>
    leaves_save avoided ready.tree ready.output prompt outcome

/-- So does writing what the run comes to. -/
theorem Ready.saveResult (ready : j.Ready folder r ro again w)
    (outside : ¬ promptsAt again <:+ r.address) (result : RunResult) :
    j.Ready folder r ro again (j.saveResult result w).2 ∧
      Remembers folder w (j.saveResult result w).2 :=
  ready.leaves (isTree_saveResult ready.tree result) outside fun avoided =>
    leaves_saveResult avoided ready.tree ready.output result

/-- Where a record of an answer has been written, it can be written, and it has a place. -/
theorem Ready.recordable (ready : j.Ready folder r ro again w) {prompt : Prompt} {answer : Answer}
    (ok : outcome = .ok answer) (saved : j.save prompt outcome w = (.ok (), w')) (out : Path)
    (output : j.output = some out) : Recordable w' out ro prompt.id ∧ HasPlace ro w' := by
  simp only [Job.save, output, ok, recordOf?] at saved
  obtain ⟨recordable, there⟩ :=
    Artifacts.recordable_of_saveRecord ready.tree (ready.output out output) saved
  exact ⟨recordable, by simp [HasPlace, there]⟩

section First

variable (fits : j.options.Fits) (outside : ¬ promptsAt again <:+ r.address)
include fits outside

/-- What a cache holds after it has been asked successfully: the answer, and all that it held. -/
theorem query_stored (ready : j.Ready folder r ro again w)
    (h : (m.watched.behind (some folder)).query text j.options (w, s, log) =
      (outcome, w', s₁, log₁))
    (respects : ∀ q ∈ log₁, j.Respects folder r ro again q.before q.after)
    (stores : ∀ q ∈ log₁, CanStore m.profile folder q) {answer : Answer}
    (answered : outcome = .ok answer) :
    j.Ready folder r ro again w' ∧ Remembers folder w w' ∧
      Cache.lookup w' folder (fingerprint m.profile text j.options) = some answer := by
  have hkey : IsKey (fingerprint m.profile text j.options) :=
    Cache.isKey_fingerprint m.profile text j.options
  obtain ⟨_, answer', same, given, found, rfl, -, -⟩ | ⟨w₁, said, rfl, cache⟩ :=
    Model.query_behind_watched h
  · obtain rfl := Option.some.inj same
    obtain rfl := Except.ok.inj (given.symm.trans answered)
    exact ⟨ready, fun _ found => found, found⟩
  · obtain ⟨missing, after⟩ := cache folder rfl
    have respected := respects ⟨text, j.options, outcome, w, w₁⟩ (by simp)
    obtain ⟨usage, stored⟩ := stores ⟨text, j.options, outcome, w, w₁⟩ (by simp) answer answered
    obtain ⟨tree, aims, output⟩ := respected.ready ready
    have stored : Cache.store w₁ folder (Cache.entryOf m.profile text j.options answer) =
        (.ok (), w') := Prod.ext stored (after answer answered).symm
    have settles := Cache.settles_of_store tree aims
      (fun hkey => hkey.not_promptsAt_suffix outside) hkey fits usage stored
    refine ⟨⟨settles.plain.tree, settles.plain.takes.aims, fun out hout => ?_⟩, ?_, settles.found⟩
    · exact (output out hout).keeps (settles.keeps _)
    · intro key answer' hother found
      have differ : key ≠ fingerprint m.profile text j.options := by
        rintro rfl
        simp [missing] at found
      exact settles.others hother differ (respected.remembers hother found)

/-- On its way a run stores the answers that it does not find, and none is lost. -/
theorem Visits.stored {specs : List (SourceFile × PromptSpec)} {p p' : Progress}
    {s s' : World × σ × List Said} {ts : List Turn}
    (way : Visits j (m.watched.behind (some folder)) specs p s ts p' s')
    (ready : j.Ready folder r ro again s.1)
    (respects : ∀ q ∈ s'.2.2, j.Respects folder r ro again q.before q.after)
    (stores : ∀ q ∈ s'.2.2, CanStore m.profile folder q)
    (answered : ∀ t ∈ ts, ∃ answer, t.outcome = .ok answer) :
    j.Stored m.profile folder r ro again ts s.1 s'.1 := by
  induction way with
  | done | full => exact ⟨ready, fun _ found => found, by simp, by simp, fun _ _ => id⟩
  | unfit _ _ _ ih | filtered _ _ _ _ ih => exact ih ready respects stores answered
  | @asked file spec more p s ts p' s' code outcome s₁ w₂ _ _ _ answer saved rest ih =>
      obtain ⟨⟨given, ok⟩, answered⟩ := List.forall_mem_cons.1 answered
      have noted : s₁.2.2 <+: s'.2.2 := rest.log_prefix
      obtain ⟨ready₁, remembers₁, found⟩ := query_stored fits outside ready answer
        (fun q hq => respects q (noted.subset hq)) (fun q hq => stores q (noted.subset hq)) ok
      obtain ⟨ready₂, remembers₂⟩ := ready₁.save outside
        ⟨p.prompts.nextId, render j.template code spec, spec⟩ outcome
      have written := ready₁.recordable ok saved
      rw [saved] at ready₂ remembers₂
      obtain ⟨ready', remembers', others, recordable, place⟩ := ih ready₂ respects stores answered
      have hkey := Cache.isKey_fingerprint m.profile (render j.template code spec) j.options
      refine ⟨ready', fun hkey found => ?_, List.forall_mem_cons.2 ⟨⟨given, ok, ?_⟩, others⟩,
        fun out hout => List.forall_mem_cons.2 ⟨⟨w₂, (written out hout).1⟩, recordable out hout⟩,
        fun out hout _ => place out hout (written out hout).2⟩
      · exact remembers' hkey (remembers₂ hkey (remembers₁ hkey found))
      · exact remembers' hkey (remembers₂ hkey found)

/-- When a run with an answer to each prompt has come to its end, the cache has all the answers, and
its output can be written again. -/
theorem stored_of_generate {files : List SourceFile} {s s' : World × σ × List Said}
    {result : RunResult}
    (h : j.generate (m.watched.behind (some folder)) files s = (.ok result, s'))
    (failed : result.summary.nrQueryFailed = 0) (missing : result.summary.nrReplayMissing = 0)
    (ready : j.Ready folder r ro again (j.clear s.1).2)
    (respects : ∀ q ∈ s'.2.2, j.Respects folder r ro again q.before q.after)
    (stores : ∀ q ∈ s'.2.2, CanStore m.profile folder q) :
    j.Ready folder r ro again s'.1 ∧
      (∀ t ∈ j.turns (m.watched.behind (some folder)) files s,
        t.IsFound m.profile folder j.options s'.1) ∧
      ∀ out, j.output = some out → HasPlace ro (j.clear s.1).2 → Writable s'.1 out ro ∧
        ∀ t ∈ j.turns (m.watched.behind (some folder)) files s,
          ∃ w, Recordable w out ro t.prompt.id := by
  obtain ⟨w₁, p, w₂, s₂, cleared, way, rfl, saved, rfl⟩ := generate_eq_ok h
  obtain ⟨visited, -, books, -⟩ := (books_start j).run way
  rw [cleared] at ready ⊢
  have stored := way.stored fits outside ready respects stores (books.answered failed missing)
  obtain ⟨ready', remembers⟩ := stored.ready.saveResult outside
    ⟨p.summary.setFailures ((m.watched.behind (some folder)).counter s'.2), p.mutants⟩
  rw [saved] at ready' remembers
  refine ⟨ready', fun t ht => ?_, fun out output place => ⟨?_, stored.recordable out output⟩⟩
  · obtain ⟨answer, ok, found⟩ := stored.found t ht
    exact ⟨answer, ok, remembers (Cache.isKey_fingerprint _ _ _) found⟩
  · obtain ⟨_, mutants, summary⟩ := saveResult_eq_ok output saved
    exact Artifacts.writable_of_saved stored.ready.tree (stored.ready.output out output)
      (stored.place out output place) mutants summary

end First

/-! ## The run that is made again -/

/-- Whether the paths of the cache and of the output folder of a run that is made again take their
routes, and the answers to the turns that are left are in the cache. -/
structure Finds (j : Job) (p : Profile) (folder : Path) (r ro : Route) (ts : List Turn)
    (w : World) : Prop where
  tree : w.IsTree
  cache : w.Aims (promptsAt ro) folder r
  output : ∀ out, j.output = some out → w.Aims (promptsAt ro) out ro
  answers : ∀ t ∈ ts, t.IsFound p folder j.options w

/-- Whether a run can write the records of the turns that are left to its output folder, if it has
one, and what it comes to. -/
def Writes (j : Job) (ro : Route) (ts : List Turn) (w : World) : Prop :=
  ∀ out, j.output = some out →
    Writable w out ro ∧ ∀ t ∈ ts, Recordable w out ro t.prompt.id

namespace Writes

/-- So it can when its folder is cleared that has held the records before. -/
theorem of_clear {ts : List Turn} (h : ∀ out, j.output = some out → Writable w out ro ∧
      ¬ promptsAt ro <:+ w.home ∧ ∀ t ∈ ts, ∃ w, Recordable w out ro t.prompt.id) :
    ∃ w', j.clear w = (.ok (), w') ∧ j.Writes ro ts w' := by
  cases output : j.output with
  | none => exact ⟨w, by simp [clear, output], by simp [Writes, output]⟩
  | some out =>
      obtain ⟨writable, home, recordable⟩ := h out output
      obtain ⟨w', cleared, writable', none_left⟩ := writable.exists_clear home
      refine ⟨w', by simpa [clear, output] using cleared, fun out' same => ?_⟩
      obtain rfl := Option.some.inj (output.symm.trans same)
      refine ⟨writable', fun t ht => ?_⟩
      obtain ⟨_, recordable⟩ := recordable t ht
      exact recordable.of_none none_left

theorem save {t : Turn} {ts : List Turn} (h : j.Writes ro (t :: ts) w) {answer : Answer}
    (ok : t.outcome = .ok answer) :
    ∃ w', j.save t.prompt t.outcome w = (.ok (), w') ∧ j.Writes ro ts w' := by
  cases output : j.output with
  | none => exact ⟨w, save_of_no_output output _ _ w, by simp [Writes, output]⟩
  | some out =>
      obtain ⟨writable, recordable⟩ := h out output
      obtain ⟨first, recordable⟩ := List.forall_mem_cons.1 recordable
      obtain ⟨w', saved, writable', kept⟩ := writable.exists_saveRecord
        (x := ⟨t.prompt.id, t.prompt.text, t.prompt.spec.location, .completed answer⟩) first
      refine ⟨w', by simpa [Job.save, output, ok, recordOf?] using saved, fun out' same => ?_⟩
      obtain rfl := Option.some.inj (output.symm.trans same)
      exact ⟨writable', fun t ht => kept t.prompt.id (recordable t ht)⟩

theorem saveResult (h : j.Writes ro [] w) (result : RunResult) :
    ∃ w', j.saveResult result w = (.ok (), w') := by
  cases output : j.output with
  | none => exact ⟨w, by simp [Job.saveResult, output]⟩
  | some out =>
      obtain ⟨w₁, w', mutants, summary⟩ :=
        (h out output).1.exists_saveResult result.mutants result.summary
      exact ⟨w', by simp only [Job.saveResult, output, mutants, summary]⟩

end Writes

section Again

variable {p : Profile} {ts : List Turn} (outside : ¬ promptsAt ro <:+ r.address)
include outside

theorem Finds.leaves (finds : j.Finds p folder r ro ts w) (tree : w'.IsTree)
    (leaves : Cache.Leaves (promptsAt ro) r w w') : j.Finds p folder r ro ts w' := by
  refine ⟨tree, finds.cache.keeps leaves.keeps, fun out hout => ?_, fun t ht => ?_⟩
  · exact (finds.output out hout).keeps leaves.keeps
  · obtain ⟨answer, ok, found⟩ := finds.answers t ht
    have hkey := Cache.isKey_fingerprint p t.prompt.text j.options
    exact ⟨answer, ok,
      leaves.lookup finds.tree finds.cache hkey (hkey.not_promptsAt_suffix outside) found⟩

/-- Clearing the output folder keeps the answers of a cache that is not in it. -/
theorem Finds.clear (finds : j.Finds p folder r ro ts w) (home : ¬ promptsAt ro <:+ w.home) :
    j.Finds p folder r ro ts (j.clear w).2 := by
  rw [Job.clear]
  cases output : j.output with
  | none => exact finds
  | some out =>
      obtain ⟨confined, tree⟩ :=
        Artifacts.confined_clear_of_aims finds.tree (finds.output out output) home
      exact finds.leaves outside tree (.of_confined confined outside)

omit outside in
/-- A model is not asked for what is found. -/
theorem Finds.query {σ' : Type} {m' : Model σ'} {t : Turn} {s₂ : σ'}
    (finds : j.Finds m'.profile folder r ro (t :: ts) w) :
    (m'.watched.behind (some folder)).query t.prompt.text j.options (w, s₂, []) =
      (t.outcome, w, s₂, []) := by
  obtain ⟨answer, ok, found⟩ := finds.answers t List.mem_cons_self
  rw [Model.query_of_found found, ok]

/-- How a run that finds all answers is related to the run that has stored them: its model is not
asked for anything, and it can write its output under a condition. -/
def FindsAll (j : Job) (p : Profile) (folder : Path) (r ro : Route) {σ' : Type} (s₂ : σ')
    (able : Prop) (ts : List Turn) (_ : World × σ) (v : World × σ' × List Said) : Prop :=
  v.2 = (s₂, []) ∧ j.Finds p folder r ro ts v.1 ∧ (able → j.Writes ro ts v.1)

theorem steps_found {σ' : Type} {m' : Model σ'} (j j' : Job) (m : Model σ) (s₂ : σ')
    (able : Prop) :
    Steps j j' m (m'.watched.behind (some folder)) (FindsAll j' m'.profile folder r ro s₂ able)
      fun v => v = (s₂, []) where
  known related := related.1
  asked {t ts s s₁ w₂ v v₁ outcome _ _ _ _} related answer _ rest said := by
    obtain ⟨v, idle⟩ := v
    obtain ⟨rfl, finds, writes⟩ := related
    obtain ⟨rfl, rfl⟩ := Prod.mk.inj (finds.query.symm.trans said)
    refine ⟨rfl, rfl, fun v₂ saved => ⟨rfl, ?_, fun able => ?_⟩⟩
    · have left : j'.Finds m'.profile folder r ro ts v :=
        ⟨finds.tree, finds.cache, finds.output, (List.forall_mem_cons.1 finds.answers).2⟩
      have kept := left.leaves outside (isTree_save left.tree t.prompt t.outcome)
        (leaves_save (r := r) (promptsAt ro) left.tree left.output t.prompt t.outcome)
      rwa [saved] at kept
    · obtain ⟨given, ok, -⟩ := finds.answers t List.mem_cons_self
      obtain ⟨w', saved', writes⟩ := (writes able).save ok
      obtain ⟨-, rfl⟩ := Prod.mk.inj (saved.symm.trans saved')
      exact writes

omit outside in
/-- Such a run comes to an end when it can write its output. -/
theorem canEnd_found {σ' : Type} {m' : Model σ'} {s₂ : σ'} {able : Prop} (able_now : able)
    (clears : ∃ w', j.clear w = (.ok (), w')) :
    CanEnd j (m'.watched.behind (some folder))
      (FindsAll (σ := σ) j m'.profile folder r ro s₂ able) w where
  clears := clears
  saves {t ts s v v₁} related said := by
    obtain ⟨v, idle⟩ := v
    obtain ⟨rfl, finds, writes⟩ := related
    obtain ⟨-, rfl⟩ := Prod.mk.inj (finds.query.symm.trans said)
    obtain ⟨given, ok, -⟩ := finds.answers t List.mem_cons_self
    obtain ⟨w', saved, -⟩ := (writes able_now).save ok
    exact ⟨w', saved⟩
  ends result related := (related.2.2 able_now).saveResult result

end Again

/-- Whether a run that is made again has no output folder, or the one that the first run has found
in place. -/
def KeepsOutput (j : Job) (ro again : Route) (output : Option Path) (w : World) : Prop :=
  ∀ out, output = some out →
    j.output = some out ∧ again = ro ∧ w.IsTree ∧ w.Takes (promptsAt ro) out ro

/-- After a run has cleared its folder no file has the place of the records. -/
theorem hasPlace_of_generate {files : List SourceFile} {s s' : World × σ} {result : RunResult}
    (h : j.generate m files s = (.ok result, s')) {out : Path} (output : j.output = some out)
    (tree : s.1.IsTree) (takes : s.1.Takes (promptsAt ro) out ro) :
    HasPlace ro (j.clear s.1).2 := by
  obtain ⟨w₁, _, _, _, cleared, -, -, -, -⟩ := generate_eq_ok h
  simp only [clear, output] at cleared ⊢
  have entries := (Artifacts.recorded_of_clear (tree.isSupported _) takes cleared).entries []
  intro content found
  rw [cleared] at found
  simp [Artifacts.recordsAt] at entries
  simp [entries] at found

/-- A run over a cache that has answered all its prompts is made again without its model: whatever
model of the same profile it is made again with, and wherever its output goes, no query gets past
the cache. If it keeps to its output folder it comes to an end, and whenever it does, it comes to
the same mutants and the same summary, apart from what its own model counts. -/
theorem cached_rerun_repeats {σ' : Type} {files : List SourceFile} {s s' : World × σ}
    {result : RunResult} (h : j.generate (m.cached folder) files s = (.ok result, s'))
    (failed : result.summary.nrQueryFailed = 0) (missing : result.summary.nrReplayMissing = 0)
    (fits : j.options.Fits) (outside : ¬ promptsAt again <:+ r.address)
    (ready : j.Ready folder r ro again (j.clear s.1).2)
    (respects : ∀ q ∈ j.asked m (some folder) files s,
      j.Respects folder r ro again q.before q.after)
    (stores : ∀ q ∈ j.asked m (some folder) files s, CanStore m.profile folder q)
    {m' : Model σ'} (hprofile : m'.profile = m.profile) {output : Option Path}
    (aims : ∀ out, output = some out → s'.1.Aims (promptsAt again) out again)
    (home : ¬ promptsAt again <:+ s'.1.home) (s₂ : σ') :
    let rerun : Job := { j with output := output }
    rerun.asked m' (some folder) files (s'.1, s₂) = [] ∧
      ∀ outcome v, rerun.generate (m'.cached folder) files (s'.1, s₂) = (outcome, v) →
        v.2 = s₂ ∧ (j.KeepsOutput ro again output s.1 → ∃ result', outcome = .ok result') ∧
          ∀ result', outcome = .ok result' →
            result' = ⟨result.summary.setFailures (m'.counter s₂), result.mutants⟩ := by
  intro rerun
  obtain ⟨w, s⟩ := s
  obtain ⟨w', s'⟩ := s'
  obtain ⟨⟨_, log⟩, noted, rfl⟩ :=
    ((Model.mirrors_watched m).behind (some folder)).exists_generate (s := (s, [])) h
  have seen : j.asked m (some folder) files (w, s) = log := by rw [asked, noted]
  rw [seen] at respects stores
  obtain ⟨ready', found, written⟩ :=
    stored_of_generate fits outside noted failed missing ready respects stores
  have finds : rerun.Finds m'.profile folder r again
      (j.turns (m.watched.behind (some folder)) files (w, s, [])) w' :=
    ⟨ready'.tree, ready'.cache, aims, hprofile ▸ found⟩
  -- what the first run could write can be written again
  have able : j.KeepsOutput ro again output w → ∃ v₁, rerun.clear w' = (.ok (), v₁) ∧
      rerun.Writes again (j.turns (m.watched.behind (some folder)) files (w, s, [])) v₁ := by
    intro keeps
    refine Writes.of_clear fun out hout => ?_
    obtain ⟨same, rfl, tree, takes⟩ := keeps out hout
    obtain ⟨writable, recordable⟩ := written out same (hasPlace_of_generate noted same tree takes)
    exact ⟨writable, home, recordable⟩
  rcases noted' : rerun.generate (m'.watched.behind (some folder)) files (w', s₂, []) with
    ⟨outcome', v', idle⟩
  have sameConfig : rerun.config = j.config := rfl
  obtain ⟨unasked, ends, same⟩ := generate_lockstep sameConfig rfl
    (steps_found outside j rerun (m.watched.behind (some folder)) s₂
      (j.KeepsOutput ro again output w)) noted noted' rfl
    fun _ cleared => by
      have kept := finds.clear outside home
      rw [cleared] at kept
      refine ⟨rfl, kept, fun keeps => ?_⟩
      obtain ⟨v₁, cleared', writes⟩ := able keeps
      obtain ⟨-, rfl⟩ := Prod.mk.inj (cleared.symm.trans cleared')
      exact writes
  obtain rfl : idle = (s₂, []) := unasked
  refine ⟨by rw [asked, noted'], fun outcome v h' => ?_⟩
  have plain := ((Model.mirrors_watched m').behind (some folder)).generate noted'
  obtain ⟨rfl, rfl⟩ := Prod.mk.inj (plain.symm.trans h')
  refine ⟨rfl, fun keeps => ?_, fun result' ok => (same result' ok).1⟩
  obtain ⟨v₁, cleared, -⟩ := able keeps
  exact ends (canEnd_found keeps ⟨v₁, cleared⟩)

/-! ### Small runs -/

section Small

open Flight (small smallContent smallEntry linked keyOne_ne_keyTwo fingerprint_one fingerprint_two)

/-- Runs whose prompts are what the specifications stand for. -/
def sending (output : Option Path) : Job :=
  ⟨Config.standard, "\x7b\x7borig\x7d\x7d", .none, output⟩

def callee (orig : String) : PromptSpec := ⟨.between "a.py" (1, 0) (1, 1), orig, "callee"⟩

def asking (origs : List String) : List SourceFile :=
  [⟨"a.py", .python, "f(x)\n", origs.map callee⟩]

def twoAnswers : List (Except Failure Answer) :=
  [.ok ⟨["\x60\x60\x60\ng\n\x60\x60\x60"], ⟨3, 4, 7⟩⟩, .ok ⟨["none"], .zero⟩]

/-- A run with two prompts that writes to a folder beside its cache. -/
theorem exists_generate_two_prompts :
    ∃ result w left log, (sending (some (.ofString "o"))).generate
        ((Model.scripted small).watched.behind (some (.ofString "c"))) (asking ["1", "2"])
        (⟨[], []⟩, twoAnswers, []) = (.ok result, w, left, log) ∧
      (result.summary.nrQueryFailed, result.summary.nrReplayMissing, result.summary.nrMutants) =
        (0, 0, 1) ∧
      (w.IsTree ∧ w.home = [] ∧ w.hasNoLinks = true) ∧
      log.length = 2 ∧ ∀ q ∈ log, CanStore small (.ofString "c") q := by
  have facts : match (sending (some (.ofString "o"))).generate
        ((Model.scripted small).watched.behind (some (.ofString "c"))) (asking ["1", "2"])
        (⟨[], []⟩, twoAnswers, []) with
      | (outcome, w, _, log) => outcome.toOption.map (fun result => (result.summary.nrQueryFailed,
            result.summary.nrReplayMissing, result.summary.nrMutants)) = some (0, 0, 1) ∧
          (w.IsTree ∧ w.home = [] ∧ w.hasNoLinks = true) ∧
          log.length = 2 ∧ ∀ q ∈ log, CanStore small (.ofString "c") q := by
    decide +kernel
  -- the kernel would run the job again to compare it with its outcome in the cases below
  generalize (sending (some (.ofString "o"))).generate
    ((Model.scripted small).watched.behind (some (.ofString "c"))) (asking ["1", "2"])
    (⟨[], []⟩, twoAnswers, []) = run at facts ⊢
  obtain ⟨fault | result, w, left, log⟩ := run
  · simp [Except.toOption] at facts
  · exact ⟨result, w, left, log, rfl, Option.some.inj facts.1, facts.2⟩

/-- The run is made again with a model that would fail, and writes to the same folder. -/
theorem cached_rerun_repeats_of_two_prompts :
    let j := sending (some (.ofString "o"))
    let m := Model.scripted small
    let files := asking ["1", "2"]
    ∃ result s result' s',
      j.generate (m.cached (.ofString "c")) files (⟨[], []⟩, twoAnswers) = (.ok result, s) ∧
      (j.asked m (some (.ofString "c")) files (⟨[], []⟩, twoAnswers)).length = 2 ∧
      result.summary.nrMutants = 1 ∧
      j.asked m (some (.ofString "c")) files (s.1, []) = [] ∧
      j.generate (m.cached (.ofString "c")) files (s.1, []) = (.ok result', s') ∧
      result' = ⟨result.summary.setFailures .zero, result.mutants⟩ := by
  intro j m files
  let r (name : String) : Route := ⟨0, [], [Text.bytes name]⟩
  obtain ⟨result, w, left, log, noted, counts, ⟨tree', home, noLinks⟩, two, stores⟩ :=
    exists_generate_two_prompts
  have h : j.generate (m.cached (.ofString "c")) files (⟨[], []⟩, twoAnswers) =
      (.ok result, w, left) :=
    ((Model.mirrors_watched m).behind (some (.ofString "c"))).generate noted
  have seen : j.asked m (some (.ofString "c")) files (⟨[], []⟩, twoAnswers) = log := by
    rw [asked, noted]
  obtain ⟨failed, missing, mutants⟩ : result.summary.nrQueryFailed = 0 ∧
      result.summary.nrReplayMissing = 0 ∧ result.summary.nrMutants = 1 := by simpa using counts
  rw [← seen] at two stores
  -- the folders of the two runs, before the first one and before the second one
  have tree : World.IsTree ⟨[], []⟩ := by decide
  have takes : World.Takes ⟨[], []⟩ (promptsAt (r "o")) (.ofString "o") (r "o") :=
    .of_names (by decide) tree rfl (by decide) (by decide)
  have ready : j.Ready (.ofString "c") (r "c") (r "o") (r "o") (j.clear ⟨[], []⟩).2 := by
    refine ⟨tree, (World.Takes.of_names ?_ tree rfl ?_ ?_).aims, ?_⟩
    case refine_4 =>
      rintro _ ⟨⟩
      exact takes.aims
    all_goals decide
  have takes' : w.Takes (promptsAt (r "o")) (.ofString "o") (r "o") :=
    .of_names (by rw [home]; decide) tree' noLinks (by decide) (by decide)
  have aims : ∀ out, j.output = some out → w.Aims (promptsAt (r "o")) out (r "o") := by
    rintro _ ⟨⟩
    exact takes'.aims
  have respects : ∀ q ∈ j.asked m (some (.ofString "c")) files (⟨[], []⟩, twoAnswers),
      j.Respects (.ofString "c") (r "c") (r "o") (r "o") q.before q.after := by
    intro q hq
    rw [after_eq_before_of_asked (Model.scripted_quiet small) _ _ _ q hq]
    exact ⟨id, fun _ => id⟩
  obtain ⟨unasked, again⟩ := cached_rerun_repeats h failed missing Flight.fits_none (by decide)
    ready respects stores (rfl : m.profile = _) aims (by rw [home]; decide) []
  rcases made : j.generate (m.cached (.ofString "c")) files (w, []) with ⟨outcome, s'⟩
  obtain ⟨-, ends, same⟩ := again outcome s' made
  obtain ⟨result', rfl⟩ := ends (by rintro _ ⟨⟩; exact ⟨rfl, rfl, tree, takes⟩)
  exact ⟨result, (w, left), result', s', h, two, mutants, unasked, made, same result' rfl⟩

/-- Whether a run with an answer to each prompt, all of which can be stored, asks its model for
something when it is made again. -/
def IsAskedAgain (j : Job) (folder : Path) (files : List SourceFile) (w : World)
    (script : List (Except Failure Answer)) : Prop :=
  let m := Model.scripted small
  ∃ result s, j.generate (m.cached folder) files (w, script) = (.ok result, s) ∧
    (result.summary.nrQueryFailed, result.summary.nrReplayMissing) = (0, 0) ∧
    (∀ q ∈ j.asked m (some folder) files (w, script), CanStore small folder q) ∧
    j.asked m (some folder) files (s.1, []) ≠ []

theorem sent_callee {orig : String} (h : orig = "1" ∨ orig = "2") :
    (callee orig).codeWithPlaceholder "f(x)\n" = some "<PLACEHOLDER>(x)\n" ∧
      (callee orig).isSkipped (sending none).config = false ∧
      render (sending none).template "<PLACEHOLDER>(x)\n" (callee orig) = orig := by
  obtain rfl | rfl := h <;> decide +kernel

/-- Two prompts of which a run without an output folder gets the answers. -/
theorem generate_asking {s s₁ s₂ : World × σ} {a b : Answer}
    (first : m.query "1" .none s = (.ok a, s₁)) (second : m.query "2" .none s₁ = (.ok b, s₂)) :
    ∃ result, (sending none).generate m (asking ["1", "2"]) s = (.ok result, s₂) ∧
      (result.summary.nrQueryFailed, result.summary.nrReplayMissing) = (0, 0) := by
  let file : SourceFile := ⟨"a.py", .python, "f(x)\n", [callee "1", callee "2"]⟩
  have specs : specsOf (asking ["1", "2"]) = [(file, callee "1"), (file, callee "2")] := rfl
  have output : (sending none).output = none := rfl
  obtain ⟨fits₁, kept₁, text₁⟩ := sent_callee (.inl rfl : "1" = "1" ∨ _)
  obtain ⟨fits₂, kept₂, text₂⟩ := sent_callee (.inr rfl : "2" = "1" ∨ _)
  rw [show "f(x)\n" = file.text from rfl] at fits₁ fits₂
  obtain ⟨p, visited, counts⟩ : ∃ p, (sending none).visitAll m (specsOf (asking ["1", "2"]))
      (.start (sending none).config) s = (.ok p, s₂) ∧
        (p.summary.nrQueryFailed, p.summary.nrReplayMissing) = (0, 0) := by
    rw [← text₁] at first
    rw [← text₂] at second
    rw [specs, (visitAll_of_asks ?_ fits₁ kept₁ first (save_of_no_output output _ _ _)).1,
      (visitAll_of_asks ?_ fits₂ kept₂ second (save_of_no_output output _ _ _)).1]
    · exact ⟨_, rfl, by simp [summary_after_ok, Progress.start, RunSummary.start]⟩
    all_goals simp [isFull, Progress.start, RunSummary.start, sending, Config.standard]
  exact ⟨⟨p.summary.setFailures (m.counter s₂.2), p.mutants⟩,
    by simp [generate, clear, output, visited, saveResult], counts⟩

/-- A prompt that is first in turn and has no answer in the cache gets to the model. -/
theorem asked_ne_nil_of_missing (output : j.output = none) (some_room : 0 < j.config.maxNrPrompts)
    {files : List SourceFile} {file : SourceFile} {spec : PromptSpec}
    {more : List (SourceFile × PromptSpec)} (specs : specsOf files = (file, spec) :: more)
    {code : String} (fits : spec.codeWithPlaceholder file.text = some code)
    (kept : spec.isSkipped j.config = false) (rendered : render j.template code spec = text)
    (missing : Cache.lookup w folder (fingerprint m.profile text j.options) = none) :
    j.asked m (some folder) files (w, s) ≠ [] := by
  obtain ⟨result, ⟨w', s', log⟩, h⟩ := exists_generate_of_no_output
    (m := m.watched.behind (some folder)) output files (w, s, [])
  obtain ⟨w₁, p, w₂, s₂, cleared, way, -, -, rfl⟩ := generate_eq_ok h
  obtain rfl : w = w₁ := by simpa [clear, output] using cleared
  generalize j.turns _ files _ = ts at way
  rw [specs] at way
  have noted : log ≠ [] := by
    cases way with
    | full full => simp [isFull, Progress.start, RunSummary.start, some_room.ne'] at full
    | unfit _ unfit => simp [fits] at unfit
    | filtered _ _ skipped => simp [kept] at skipped
    | asked _ fits' _ answer _ rest =>
        obtain rfl := Option.some.inj (fits.symm.trans fits')
        subst rendered
        obtain ⟨_, _, same, -, found, -⟩ | ⟨_, -, grown, -⟩ := Model.query_behind_watched answer
        · obtain rfl := Option.some.inj same
          simp [missing] at found
        · rintro rfl
          simpa [grown] using rest.log_prefix
  rwa [asked, h]

/-- Two prompts share an entry by a link: the answer to the second one takes the place of that to
the first one. -/
theorem isAskedAgain_of_link : (sending none).IsAskedAgain (.ofString "c") (asking ["1", "2"])
    (linked (smallContent "1" "x")) [.ok ⟨["y"], .zero⟩] := by
  let m := (Model.scripted small).watched.behind (some (.ofString "c"))
  let w := linked (smallContent "1" "x")
  let w' := linked (smallContent "2" "y")
  have held : Cache.lookup w (.ofString "c") (fingerprint small "1" .none) =
      some ⟨["x"], .zero⟩ := by
    rw [fingerprint_one, Flight.lookup_small Flight.read_linked_one, fingerprint_one, if_pos rfl]
  have missing : Cache.lookup w (.ofString "c") (fingerprint small "2" .none) = none := by
    rw [fingerprint_two, Flight.lookup_small Flight.read_linked_two, fingerprint_one,
      if_neg keyOne_ne_keyTwo]
  have stored : Cache.store w (.ofString "c") (smallEntry "2" "y") = (.ok (), w') :=
    Flight.store_linked _ fingerprint_two
  have spoilt : Cache.lookup w' (.ofString "c") (fingerprint small "1" .none) = none := by
    rw [fingerprint_one, Flight.lookup_small Flight.read_linked_one, fingerprint_two,
      if_neg keyOne_ne_keyTwo.symm]
  have first : m.query "1" .none (w, [.ok ⟨["y"], .zero⟩], []) =
      (.ok ⟨["x"], .zero⟩, w, [.ok ⟨["y"], .zero⟩], []) := Model.query_of_found held
  have second : m.query "2" .none (w, [.ok ⟨["y"], .zero⟩], []) =
      (.ok ⟨["y"], .zero⟩, w', [], [⟨"2", .none, .ok ⟨["y"], .zero⟩, w, w⟩]) :=
    Model.query_of_missing missing rfl stored
  obtain ⟨result, noted, counts⟩ := generate_asking first second
  refine ⟨result, (w', []), ((Model.mirrors_watched _).behind _).generate noted, counts, ?_, ?_⟩
  · rw [asked, noted]
    rintro q hq answer ok
    obtain rfl := List.mem_singleton.1 hq
    obtain rfl := Except.ok.inj ok
    exact ⟨Flight.fits_zero, congrArg Prod.fst stored⟩
  · obtain ⟨fits, kept, rendered⟩ := sent_callee (.inl rfl : "1" = "1" ∨ _)
    exact asked_ne_nil_of_missing rfl (by decide) (rfl : specsOf (asking ["1", "2"]) = _) fits kept
      rendered spoilt

end Small

end Job

end Mutagenesis
