import Mutagenesis.Model.Cache
import Mutagenesis.Proofs.Model.Requests
import Mutagenesis.Proofs.Run.Turns

/-!
# Mirrored models

A model that keeps notes beside its state says and does the same as the model without them: it
mirrors that model. Mirroring goes through a cache and through whole runs, so the notes of a run
tell of the run without notes as well. In this way the queries are known that get past a cache.
-/
namespace Mutagenesis

open Files (World)

/-- Whether a model says and does what another one does from the state in view. -/
structure Model.Mirrors {σ σ' : Type} (m' : Model σ') (m : Model σ) (view : σ' → σ) : Prop where
  profile : m'.profile = m.profile
  query : ∀ {text options w s outcome w₁ s₁},
    m'.query text options (w, s) = (outcome, w₁, s₁) →
      m.query text options (w, view s) = (outcome, w₁, view s₁)
  counter : ∀ s, m'.counter s = m.counter (view s)

/-- The model behind a cache, if there is one. -/
def Model.behind {σ : Type} (m : Model σ) : Option Path → Model σ
  | none => m
  | some folder => m.cached folder

namespace Model

variable {σ σ' σ'' : Type} {m : Model σ} {m' : Model σ'} {m'' : Model σ''} {view : σ' → σ}

theorem mirrors_watched (m : Model σ) : m.watched.Mirrors m Prod.fst where
  profile := rfl
  query {text options w s outcome w₁ s₁} h := by
    obtain ⟨inner, log⟩ := s
    rw [query_watched] at h
    rcases said : m.query text options (w, inner) with ⟨outcome', w', s'⟩
    rw [said] at h
    obtain ⟨rfl, rfl, rfl⟩ := by simpa using h
    rfl
  counter _ := rfl

/-- Keeping the requests that a transport sends changes nothing else. -/
theorem mirrors_live {τ : Type} (c : Config) (context : String) (t : Throttle)
    (transport : Transport τ) :
    (live c context t transport.watched).Mirrors (live c context t transport) Live.unwatched where
  profile := rfl
  query h := (query_live_unwatched c context t transport h).1
  counter _ := rfl

namespace Mirrors

theorem trans {view' : σ'' → σ'} (h' : m''.Mirrors m' view') (h : m'.Mirrors m view) :
    m''.Mirrors m (view ∘ view') where
  profile := h'.profile.trans h.profile
  query said := h.query (h'.query said)
  counter s := (h'.counter s).trans (h.counter (view' s))

/-- A cache finds the same answers for both, and stores the same. -/
theorem cached (h : m'.Mirrors m view) (folder : Path) :
    (m'.cached folder).Mirrors (m.cached folder) view where
  profile := h.profile
  query {text options w s outcome w₁ s₁} said := by
    simp only [Model.cached, h.profile] at said ⊢
    cases found : Cache.lookup w folder (fingerprint m.profile text options) with
    | some answer =>
        simp only [found, Prod.mk.injEq] at said ⊢
        obtain ⟨rfl, rfl, rfl⟩ := said
        exact ⟨rfl, rfl, rfl⟩
    | none =>
        simp only [found] at said ⊢
        rcases inner : m'.query text options (w, s) with ⟨failure | answer, w', s'⟩
        all_goals
          simp only [inner, Prod.mk.injEq] at said
          obtain ⟨rfl, rfl, rfl⟩ := said
          rw [h.query inner]
  counter := h.counter

theorem behind (h : m'.Mirrors m view) (cache : Option Path) :
    (m'.behind cache).Mirrors (m.behind cache) view := by
  cases cache with
  | none => exact h
  | some folder => exact h.cached folder

theorem visitAll (h : m'.Mirrors m view) (j : Job) {specs : List (SourceFile × PromptSpec)}
    {p : Progress} {w w₁ : World} {s s₁ : σ'} {outcome : Except ArtifactFault Progress}
    (visited : j.visitAll m' specs p (w, s) = (outcome, w₁, s₁)) :
    j.visitAll m specs p (w, view s) = (outcome, w₁, view s₁) := by
  induction specs generalizing p w s with
  | nil =>
      simp only [Job.visitAll, Prod.mk.injEq] at visited ⊢
      obtain ⟨rfl, rfl, rfl⟩ := visited
      exact ⟨rfl, rfl, rfl⟩
  | cons x more ih =>
      obtain ⟨file, spec⟩ := x
      cases room : j.isFull p with
      | true =>
          simp only [Job.visitAll_of_isFull room, Prod.mk.injEq] at visited ⊢
          obtain ⟨rfl, rfl, rfl⟩ := visited
          exact ⟨rfl, rfl, rfl⟩
      | false =>
          cases fits : spec.codeWithPlaceholder file.text with
          | none =>
              simp only [Job.visitAll_of_none room fits] at visited ⊢
              exact ih visited
          | some code =>
              cases kept : spec.isSkipped j.config with
              | true =>
                  simp only [Job.visitAll_of_isSkipped room fits kept] at visited ⊢
                  exact ih visited
              | false =>
                  rcases answer : m'.query (render j.template code spec) j.options (w, s) with
                    ⟨said, w', s'⟩
                  rcases saved : j.save
                    ⟨p.prompts.nextId, render j.template code spec, spec⟩ said w' with
                    ⟨_ | ⟨⟩, w''⟩
                  · simp only [Job.visitAll_of_unsaved room fits kept answer saved,
                      Job.visitAll_of_unsaved room fits kept (h.query answer) saved,
                      Prod.mk.injEq] at visited ⊢
                    obtain ⟨rfl, rfl, rfl⟩ := visited
                    exact ⟨rfl, rfl, rfl⟩
                  · simp only [Job.visitAll_of_asks room fits kept answer saved,
                      Job.visitAll_of_asks room fits kept (h.query answer) saved] at visited ⊢
                    exact ih visited

/-- A run with the one model is a run with the other. -/
theorem generate (h : m'.Mirrors m view) {j : Job} {files : List SourceFile} {w w₁ : World}
    {s s₁ : σ'} {outcome : Except ArtifactFault RunResult}
    (made : j.generate m' files (w, s) = (outcome, w₁, s₁)) :
    j.generate m files (w, view s) = (outcome, w₁, view s₁) := by
  rcases cleared : j.clear w with ⟨_ | ⟨⟩, w'⟩
  · simp only [Job.generate, cleared, Prod.mk.injEq] at made ⊢
    obtain ⟨rfl, rfl, rfl⟩ := made
    exact ⟨rfl, rfl, rfl⟩
  · rcases visited : j.visitAll m' (Job.specsOf files) (.start j.config) (w', s) with
      ⟨_ | p, w₂, s₂⟩
    · simp only [Job.generate, cleared, visited, h.visitAll j visited, Prod.mk.injEq] at made ⊢
      obtain ⟨rfl, rfl, rfl⟩ := made
      exact ⟨rfl, rfl, rfl⟩
    · simp only [Job.generate, cleared, visited, h.visitAll j visited, h.counter] at made ⊢
      rcases saved : j.saveResult ⟨p.summary.setFailures (m.counter (view s₂)), p.mutants⟩ w₂ with
        ⟨_ | ⟨⟩, w₃⟩
      all_goals
        simp only [saved, Prod.mk.injEq] at made ⊢
        obtain ⟨rfl, rfl, rfl⟩ := made
        exact ⟨rfl, rfl, rfl⟩

/-- And the other way round: what a run comes to with the model in view, it comes to with notes. -/
theorem exists_generate (h : m'.Mirrors m view) {j : Job} {files : List SourceFile} {w w₁ : World}
    {s : σ'} {s₁ : σ} {outcome : Except ArtifactFault RunResult}
    (made : j.generate m files (w, view s) = (outcome, w₁, s₁)) :
    ∃ s', j.generate m' files (w, s) = (outcome, w₁, s') ∧ view s' = s₁ := by
  rcases noted : j.generate m' files (w, s) with ⟨outcome', w', s'⟩
  rw [h.generate noted, Prod.mk.injEq, Prod.mk.injEq] at made
  obtain ⟨rfl, rfl, same⟩ := made
  exact ⟨s', rfl, same⟩

end Mirrors

/-! ## Past a cache -/

/-- A query behind a cache is answered by the cache, or gets past it and is noted with what the
model says; an answer is then stored. -/
theorem query_behind_watched {cache : Option Path} {text : String} {options : Options}
    {w w₁ : World} {s s₁ : σ} {log log₁ : List Said} {outcome : Except Failure Answer}
    (h : (m.watched.behind cache).query text options (w, s, log) = (outcome, w₁, s₁, log₁)) :
    (∃ folder answer, cache = some folder ∧ outcome = .ok answer ∧
        Cache.lookup w folder (fingerprint m.profile text options) = some answer ∧
        w₁ = w ∧ s₁ = s ∧ log₁ = log) ∨
      ∃ w', m.query text options (w, s) = (outcome, w', s₁) ∧
        log₁ = log ++ [⟨text, options, outcome, w, w'⟩] ∧
        ∀ folder, cache = some folder →
          Cache.lookup w folder (fingerprint m.profile text options) = none ∧
            ∀ answer, outcome = .ok answer →
              w₁ = (Cache.store w' folder (Cache.entryOf m.profile text options answer)).2 := by
  cases cache with
  | none =>
      rw [behind, query_watched] at h
      rcases said : m.query text options (w, s) with ⟨outcome', w', s'⟩
      rw [said] at h
      obtain ⟨rfl, rfl, rfl, rfl⟩ := by simpa using h
      exact .inr ⟨w', rfl, rfl, by simp⟩
  | some folder =>
      simp only [behind, cached, watched] at h
      cases found : Cache.lookup w folder (fingerprint m.profile text options) with
      | some answer =>
          simp only [found, Prod.mk.injEq] at h
          obtain ⟨rfl, rfl, rfl, rfl⟩ := h
          exact .inl ⟨folder, answer, rfl, rfl, found, rfl, rfl, rfl⟩
      | none =>
          simp only [found] at h
          rcases said : m.query text options (w, s) with ⟨failure | answer, w', s'⟩
          all_goals
            simp only [said, Prod.mk.injEq] at h
            obtain ⟨rfl, rfl, rfl, rfl⟩ := h
            refine .inr ⟨w', rfl, rfl, fun folder' same => ?_⟩
            obtain rfl := Option.some.inj same
            exact ⟨found, by simp⟩

section

variable {text : String} {options : Options} {folder : Path} {answer : Answer} {w w₁ w₂ : World}
  {s s₁ : σ} {log : List Said}

theorem query_of_found
    (found : Cache.lookup w folder (fingerprint m.profile text options) = some answer) :
    (m.watched.behind (some folder)).query text options (w, s, log) = (.ok answer, w, s, log) := by
  simp only [behind, cached, watched, found]

theorem query_of_missing
    (missing : Cache.lookup w folder (fingerprint m.profile text options) = none)
    (said : m.query text options (w, s) = (.ok answer, w₁, s₁))
    (stored : Cache.store w₁ folder (Cache.entryOf m.profile text options answer) =
      (.ok (), w₂)) :
    (m.watched.behind (some folder)).query text options (w, s, log) =
      (.ok answer, w₂, s₁, log ++ [⟨text, options, .ok answer, w, w₁⟩]) := by
  simp only [behind, cached, watched, missing, said, stored]

end

end Model

namespace Job

variable {σ : Type}

/-- What has been noted stays noted. -/
theorem Visits.log_prefix {j : Job} {m : Model σ} {cache : Option Path}
    {specs : List (SourceFile × PromptSpec)} {p p' : Progress} {s s' : World × σ × List Said}
    {ts : List Turn} (way : Visits j (m.watched.behind cache) specs p s ts p' s') :
    s.2.2 <+: s'.2.2 := by
  induction way with
  | done | full => exact List.prefix_rfl
  | unfit _ _ _ ih | filtered _ _ _ _ ih => exact ih
  | asked _ _ _ answer _ _ ih =>
      obtain ⟨_, _, -, -, -, -, -, same⟩ | ⟨_, -, grown, -⟩ := Model.query_behind_watched answer
      · exact same ▸ ih
      · exact (grown ▸ List.prefix_append _ _).trans ih

/-- The queries of a run that get past its cache to the model. -/
def asked (j : Job) (m : Model σ) (cache : Option Path) (files : List SourceFile)
    (s : World × σ) : List Said :=
  (j.generate (m.watched.behind cache) files (s.1, s.2, [])).2.2.2

/-- A model that changes no files leaves each file as it is, whatever its cache does to them. -/
theorem after_eq_before_of_asked {j : Job} {m : Model σ}
    (quiet : ∀ text options s, (m.query text options s).2.1 = s.1) (cache : Option Path)
    (files : List SourceFile) (s : World × σ) :
    ∀ q ∈ j.asked m cache files s, q.after = q.before := by
  refine generate_induction (j := j) (m := m.watched.behind cache)
    (I := fun v => ∀ q ∈ v.2.2, q.after = q.before) ?_ id id id (by simp)
  intro text v noted
  rcases answer : (m.watched.behind cache).query text j.options v with ⟨outcome, w₁, s₁, log₁⟩
  obtain ⟨_, _, -, -, -, -, -, rfl⟩ | ⟨_, said, rfl, -⟩ := Model.query_behind_watched answer
  · exact noted
  · have same := (congrArg (·.2.1) said).symm.trans (quiet _ _ _)
    exact List.forall_mem_append.2 ⟨noted, by simpa using same⟩

end Job

end Mutagenesis
