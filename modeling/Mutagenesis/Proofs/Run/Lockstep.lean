import Mathlib.Data.List.Forall2
import Mutagenesis.Proofs.Run.Turns

/-!
# Runs in lockstep

Two runs over the same specifications, with the same configuration and template, ask for the same
prompts one after the other. As long as the second one is answered as the first one was, it takes
the turns of the first one; whether it is answered so is settled by what relates the two from turn
to turn.
-/
namespace Mutagenesis

open Files (World)

/-- Whether two turns are the same, the files apart. -/
structure Turn.Alike (t t' : Turn) : Prop where
  file : t'.file = t.file
  prompt : t'.prompt = t.prompt
  outcome : t'.outcome = t.outcome

namespace Job

variable {σ σ' : Type} {j j' : Job} {m : Model σ} {m' : Model σ'}

/-- A turn takes two runs equally far that count and classify alike. -/
theorem after_alike {t t' : Turn} (h : t.Alike t') (hconfig : j'.config = j.config)
    (p : Progress) : j'.after p t' = j.after p t := by
  simp [Job.after, site, h.file, h.prompt, h.outcome, hconfig]

/-- A relation of two runs by the turns that are left of the first one, which holds from turn to
turn: while it holds the second run is answered as the first one. Whether the second run can write
its records does not matter to what its model then knows. -/
structure Steps (j j' : Job) (m : Model σ) (m' : Model σ')
    (R : List Turn → World × σ → World × σ' → Prop) (Q : σ' → Prop) : Prop where
  known : ∀ {ts s v}, R ts s v → Q v.2
  asked : ∀ {t ts s s₁ w₂ v v₁ outcome specs p p' s'}, R (t :: ts) s v →
    m.query t.prompt.text j.options s = (t.outcome, s₁) →
    j.save t.prompt t.outcome s₁.1 = (.ok (), w₂) → Visits j m specs p (w₂, s₁.2) ts p' s' →
    m'.query t.prompt.text j'.options v = (outcome, v₁) →
    outcome = t.outcome ∧ Q v₁.2 ∧
      ∀ v₂, j'.save t.prompt outcome v₁.1 = (.ok (), v₂) → R ts (w₂, s₁.2) (v₂, v₁.2)

/-- Whether the second run can write its records as long as it is related to the first one. -/
def CanSave (j' : Job) (m' : Model σ') (R : List Turn → World × σ → World × σ' → Prop) : Prop :=
  ∀ {t ts s v v₁}, R (t :: ts) s v → m'.query t.prompt.text j'.options v = (t.outcome, v₁) →
    ∃ v₂, j'.save t.prompt t.outcome v₁.1 = (.ok (), v₂)

/-- Along the way of the first run the second one takes the same turns, up to its first fault; and
it meets none if it can write its records. -/
theorem Visits.lockstep {R : List Turn → World × σ → World × σ' → Prop} {Q : σ' → Prop}
    (hconfig : j'.config = j.config) (htemplate : j'.template = j.template)
    (steps : Steps j j' m m' R Q) {specs : List (SourceFile × PromptSpec)} {p p' : Progress}
    {s s' : World × σ} {ts : List Turn} (way : Visits j m specs p s ts p' s') {v v' : World × σ'}
    {outcome : Except ArtifactFault Progress} (related : R ts s v)
    (h : j'.visitAll m' specs p v = (outcome, v')) :
    Q v'.2 ∧ (CanSave j' m' R → ∃ q', outcome = .ok q') ∧ ∀ q', outcome = .ok q' →
      q' = p' ∧ R [] s' v' ∧ List.Forall₂ Turn.Alike ts (j'.turnsFrom m' specs p v) := by
  have fullness : ∀ p, j'.isFull p = j.isFull p := fun p => by simp [isFull, hconfig]
  induction way generalizing v with
  | done =>
      simp only [visitAll, Prod.mk.injEq] at h
      obtain ⟨rfl, rfl⟩ := h
      exact ⟨steps.known related, fun _ => ⟨_, rfl⟩,
        fun q' hq => ⟨(Except.ok.inj hq).symm, related, .nil⟩⟩
  | full full =>
      rw [← fullness] at full
      simp only [visitAll_of_isFull full, Prod.mk.injEq] at h ⊢
      obtain ⟨rfl, rfl⟩ := h
      exact ⟨steps.known related, fun _ => ⟨_, rfl⟩,
        fun q' hq => ⟨(Except.ok.inj hq).symm, related, .nil⟩⟩
  | unfit room unfit _ ih =>
      rw [← fullness] at room
      simp only [visitAll_of_none room unfit] at h ⊢
      exact ih related h
  | filtered room fits skipped _ ih =>
      rw [← fullness] at room
      rw [← hconfig] at skipped
      simp only [visitAll_of_isSkipped room fits skipped] at h ⊢
      exact ih related h
  | @asked file spec more p s ts p' s' code outcome₁ s₁ w₂ room fits kept answer saved rest ih =>
      rw [← fullness] at room
      rw [← hconfig] at kept
      rcases said : m'.query (render j.template code spec) j'.options v with ⟨outcome₂, v₁⟩
      obtain ⟨same, known, onward⟩ := steps.asked related answer saved rest said
      have said' : m'.query (render j'.template code spec) j'.options v = (outcome₂, v₁) :=
        htemplate ▸ said
      rcases stored : j'.save ⟨p.prompts.nextId, render j.template code spec, spec⟩ outcome₂ v₁.1
        with ⟨_ | ⟨⟩, v₂⟩
      · rw [(visitAll_of_unsaved room fits kept said' (htemplate ▸ stored)).1] at h
        obtain ⟨rfl, rfl⟩ := Prod.mk.inj h
        refine ⟨known, fun saves => ?_, by simp⟩
        obtain ⟨v₂, saved'⟩ := saves related (same ▸ said)
        rw [← same, stored] at saved'
        cases saved'
      · have alike : Turn.Alike
            ⟨file, ⟨p.prompts.nextId, render j.template code spec, spec⟩, outcome₁, s.1, s₁.1⟩
            ⟨file, ⟨p.prompts.nextId, render j.template code spec, spec⟩, outcome₂, v.1, v₁.1⟩ :=
          ⟨rfl, rfl, same⟩
        simp only [visitAll_of_asks room fits kept said' (htemplate ▸ stored), htemplate,
          after_alike alike hconfig] at h ⊢
        obtain ⟨known, ends, turns⟩ := ih (onward v₂ stored) h
        refine ⟨known, ends, fun q' hq => ?_⟩
        obtain ⟨ended, related, all⟩ := turns q' hq
        exact ⟨ended, related, .cons alike all⟩

/-- The failures in the summary of a run are those that its model has counted. -/
theorem failures_of_generate {files : List SourceFile} {s s' : World × σ} {r : RunResult}
    (h : j.generate m files s = (.ok r, s')) : r.summary.failures = m.counter s'.2 := by
  obtain ⟨_, p, _, s₂, -, -, rfl, -, rfl⟩ := generate_eq_ok h
  rfl

/-- Whether the second run can write its whole output as long as it is related to the first one. -/
structure CanEnd (j' : Job) (m' : Model σ') (R : List Turn → World × σ → World × σ' → Prop)
    (v : World) : Prop where
  clears : ∃ v₁, j'.clear v = (.ok (), v₁)
  saves : CanSave j' m' R
  ends : ∀ {s v} result, R [] s v → ∃ v₁, j'.saveResult result v.1 = (.ok (), v₁)

/-- A run in step with one that has come to its end takes the same turns and comes to the same
result, apart from what its own model counts; and it comes to an end if it can write its output. -/
theorem generate_lockstep {R : List Turn → World × σ → World × σ' → Prop} {Q : σ' → Prop}
    (hconfig : j'.config = j.config) (htemplate : j'.template = j.template)
    (steps : Steps j j' m m' R Q) {files : List SourceFile} {s s' : World × σ} {r : RunResult}
    (h : j.generate m files s = (.ok r, s')) {v v' : World × σ'}
    {outcome : Except ArtifactFault RunResult} (h' : j'.generate m' files v = (outcome, v'))
    (idle : Q v.2)
    (related : ∀ {w₁ v₁}, j.clear s.1 = (.ok (), w₁) → j'.clear v.1 = (.ok (), v₁) →
      R (j.turns m files s) (w₁, s.2) (v₁, v.2)) :
    Q v'.2 ∧ (CanEnd j' m' R v.1 → ∃ r', outcome = .ok r') ∧ ∀ r', outcome = .ok r' →
      r' = ⟨r.summary.setFailures (m'.counter v'.2), r.mutants⟩ ∧
        List.Forall₂ Turn.Alike (j.turns m files s) (j'.turns m' files v) := by
  obtain ⟨w₁, p, w₂, s₂, cleared, way, rfl, -, -⟩ := generate_eq_ok h
  rw [generate] at h'
  rw [turns.eq_def j' m']
  rcases cleared' : j'.clear v.1 with ⟨_ | ⟨⟩, v₁⟩
  · simp only [cleared', Prod.mk.injEq] at h'
    obtain ⟨rfl, rfl⟩ := h'
    refine ⟨idle, fun able => ?_, by simp⟩
    obtain ⟨v₁, clears⟩ := able.clears
    simp [cleared'] at clears
  · rcases visited : j'.visitAll m' (specsOf files) (.start j'.config) (v₁, v.2) with
      ⟨_ | q, v₂, t₂⟩
    all_goals
      rw [← hconfig] at way
      obtain ⟨known, ends, turns⟩ :=
        way.lockstep hconfig htemplate steps (related cleared cleared') visited
    · simp only [cleared', visited, Prod.mk.injEq] at h'
      obtain ⟨rfl, rfl⟩ := h'
      exact ⟨known, fun able => by simpa using ends able.saves, by simp⟩
    · obtain ⟨rfl, left, alike⟩ := turns q rfl
      simp only [cleared', visited] at h'
      rcases saved : j'.saveResult ⟨q.summary.setFailures (m'.counter t₂), q.mutants⟩ v₂ with
        ⟨_ | ⟨⟩, v₃⟩
      all_goals
        simp only [saved, Prod.mk.injEq] at h'
        obtain ⟨rfl, rfl⟩ := h'
      · refine ⟨known, fun able => ?_, by simp⟩
        obtain ⟨v₃, saved'⟩ :=
          able.ends ⟨q.summary.setFailures (m'.counter t₂), q.mutants⟩ left
        simp [saved] at saved'
      · refine ⟨known, fun _ => ⟨_, rfl⟩, fun r' same => ?_⟩
        obtain rfl := Except.ok.inj same
        exact ⟨rfl, alike⟩

end Job

end Mutagenesis
