import Mutagenesis.Proofs.Location
import Mutagenesis.Proofs.Run.Progress

/-!
# The plan of a run

What a run asks is settled before the first answer. `Job.plan` lists its prompts from the files and
the configuration alone, and every run that comes to its end has asked for them, in this order and
for nothing else, whatever the model says.
-/
namespace Mutagenesis

open Files (World)

namespace Job

variable {σ : Type}

/-- The specifications that fit their files, numbered in order, without those that the filters
reject. -/
def numbered (j : Job) (specs : List (SourceFile × PromptSpec)) (first : Nat) :
    List ((SourceFile × PromptSpec) × Nat) :=
  ((specs.filter fun (file, spec) => spec.location.fits file.text).zipIdx first).filter
    fun ((_, spec), _) => !spec.isSkipped j.config

/-- The prompt for a numbered specification, made from its own file. -/
def promptFor? (j : Job) (x : (SourceFile × PromptSpec) × Nat) : Option Prompt :=
  (x.1.2.codeWithPlaceholder x.1.1.text).map fun code => ⟨x.2, render j.template code x.1.2, x.1.2⟩

/-- The prompts that a run over files is to send: those of the first numbered specifications, as
many as the configuration allows. -/
def plan (j : Job) (files : List SourceFile) : List Prompt :=
  ((j.numbered (specsOf files) 1).take j.config.maxNrPrompts).filterMap j.promptFor?

/-- What a run asks: the number of each prompt, its text and the options. -/
def queries (j : Job) (m : Model σ) (files : List SourceFile) (s : World × σ) :
    List (Nat × String × Options) :=
  (j.turns m files s).map fun t => (t.prompt.id, t.prompt.text, j.options)

variable {j : Job} {file : SourceFile} {spec : PromptSpec}
  {more : List (SourceFile × PromptSpec)} {n : Nat}

theorem fits_eq_isSome (file : SourceFile) (spec : PromptSpec) :
    spec.location.fits file.text = (spec.codeWithPlaceholder file.text).isSome :=
  (isSome_splice file.text spec.location PromptSpec.placeholder).symm

/-- A specification that does not fit takes no number. -/
theorem numbered_of_none (h : spec.codeWithPlaceholder file.text = none) :
    j.numbered ((file, spec) :: more) n = j.numbered more n := by
  simp [numbered, fits_eq_isSome, h]

/-- One that the filters reject takes a number all the same. -/
theorem numbered_of_isSkipped {code : String} (h : spec.codeWithPlaceholder file.text = some code)
    (skipped : spec.isSkipped j.config = true) :
    j.numbered ((file, spec) :: more) n = j.numbered more (n + 1) := by
  simp [numbered, fits_eq_isSome, h, skipped]

theorem numbered_of_kept {code : String} (h : spec.codeWithPlaceholder file.text = some code)
    (kept : spec.isSkipped j.config = false) :
    j.numbered ((file, spec) :: more) n = ((file, spec), n) :: j.numbered more (n + 1) := by
  simp [numbered, fits_eq_isSome, h, kept]

/-- On its way a run sends the prompts of the numbered specifications, as long as there is room. -/
theorem Visits.prompts_eq {m : Model σ} {specs : List (SourceFile × PromptSpec)}
    {p p' : Progress} {s s' : World × σ} {ts : List Turn} (way : Visits j m specs p s ts p' s') :
    ts.map (·.prompt) = ((j.numbered specs p.prompts.nextId).take
      (j.config.maxNrPrompts - p.summary.nrPrompts)).filterMap j.promptFor? := by
  induction way with
  | done => simp [numbered]
  | full full =>
      have none_left : j.config.maxNrPrompts - _ = 0 :=
        Nat.sub_eq_zero_of_le (by simpa [isFull] using full)
      simp [none_left]
  | unfit _ unfit _ ih => rw [numbered_of_none unfit]; exact ih
  | filtered _ fits skipped _ ih => rw [numbered_of_isSkipped fits skipped]; exact ih
  | @asked file spec _ p _ _ _ _ code outcome _ _ room fits kept _ _ _ ih =>
      have left : j.config.maxNrPrompts - p.summary.nrPrompts =
          j.config.maxNrPrompts - (p.summary.nrPrompts + 1) + 1 := by
        simp only [isFull, decide_eq_false_iff_not, Nat.not_le] at room
        omega
      have prompt : j.promptFor? ((file, spec), p.prompts.nextId) =
          some ⟨p.prompts.nextId, render j.template code spec, spec⟩ := by
        simp [promptFor?, fits]
      rw [nextId_after, nrPrompts_after] at ih
      rw [numbered_of_kept fits kept, left, List.take_succ_cons, List.map_cons, ih,
        List.filterMap_cons_some prompt]

/-- The turns of a run that comes to its end send the prompts of the plan. -/
theorem prompts_eq_plan {m : Model σ} {files : List SourceFile} {s s' : World × σ} {r : RunResult}
    (h : j.generate m files s = (.ok r, s')) :
    (j.turns m files s).map (·.prompt) = j.plan files := by
  obtain ⟨_, _, _, _, -, way, -, -, -⟩ := generate_eq_ok h
  simpa [Progress.start, RunSummary.start, PromptSequence.start, plan] using way.prompts_eq

theorem queries_eq_plan {m : Model σ} {files : List SourceFile} {s s' : World × σ} {r : RunResult}
    (h : j.generate m files s = (.ok r, s')) :
    j.queries m files s = (j.plan files).map fun prompt => (prompt.id, prompt.text, j.options) := by
  rw [← prompts_eq_plan h, List.map_map]
  rfl

/-- What a run asks does not depend on what is answered: two models are asked for the same numbers,
texts and options, and these are the planned ones. -/
theorem queries_independent {σ₁ σ₂ : Type} {m₁ : Model σ₁} {m₂ : Model σ₂}
    {files : List SourceFile} {s₁ s₁' : World × σ₁} {s₂ s₂' : World × σ₂} {r₁ r₂ : RunResult}
    (h₁ : j.generate m₁ files s₁ = (.ok r₁, s₁')) (h₂ : j.generate m₂ files s₂ = (.ok r₂, s₂')) :
    j.queries m₁ files s₁ = j.queries m₂ files s₂ ∧
      j.queries m₁ files s₁ =
        (j.plan files).map (fun prompt => (prompt.id, prompt.text, j.options)) ∧
      (j.log m₁ files s₁).map (fun q => (q.text, q.options)) =
        (j.plan files).map fun prompt => (prompt.text, j.options) := by
  refine ⟨(queries_eq_plan h₁).trans (queries_eq_plan h₂).symm, queries_eq_plan h₁, ?_⟩
  rw [log_eq_turns, ← prompts_eq_plan h₁, List.map_map, List.map_map]
  rfl

/-- An answering and a failing model are asked for the first and the fourth of four
specifications, of which one does not fit and one is rejected. -/
theorem queries_independent_of_failure :
    let file : SourceFile := ⟨"a.py", .python, "f(x)\n",
      [⟨.between "a.py" (1, 0) (1, 1), "f", "callee"⟩,
        ⟨.between "a.py" (3, 0) (3, 1), "f", "callee"⟩,
        ⟨.between "a.py" (1, 2) (1, 3), "x", "name"⟩,
        ⟨.between "a.py" (1, 0) (1, 4), "f(x)", "call"⟩]⟩
    let c : Config := { Config.standard with mutateOnly := some "f" }
    let j : Job := ⟨c, "\x7b\x7borig\x7d\x7d", .none, none⟩
    let m := Model.scripted ⟨"m", .zero, 1, ""⟩
    let answering : World × List (Except Failure Answer) := (⟨[], []⟩,
      [.ok ⟨["\x60\x60\x60\ng\n\x60\x60\x60"], .zero⟩, .ok ⟨[], .zero⟩])
    let failing : World × List (Except Failure Answer) := (⟨[], []⟩, [.error .recorded])
    j.queries m [file] answering = j.queries m [file] failing ∧
      j.queries m [file] answering = [(1, "f", .none), (3, "f(x)", .none)] := by
  intro file c j m answering failing
  obtain ⟨r₁, s₁, h₁⟩ : ∃ r s, j.generate m [file] answering = (.ok r, s) :=
    exists_generate_eq (by decide +kernel)
  obtain ⟨r₂, s₂, h₂⟩ : ∃ r s, j.generate m [file] failing = (.ok r, s) :=
    exists_generate_eq (by decide +kernel)
  obtain ⟨same, planned, -⟩ := queries_independent h₁ h₂
  exact ⟨same, planned.trans (by decide +kernel)⟩

end Job

end Mutagenesis
