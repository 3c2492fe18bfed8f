import Mutagenesis.Proofs.Run.Turns

/-!
# What a turn does to the progress of a run

A turn takes the next number, is counted as sent and under what became of it, and adds the mutants
among its candidates to those of the run.
-/
namespace Mutagenesis

open Files (World)

/-- The candidates of a class. -/
def nrOf (cs : List Candidate) (c : Classification) : Nat := cs.countP (·.classification = c)

/-- Every candidate is of one of the four classes. -/
theorem length_eq_nrOf (cs : List Candidate) :
    cs.length = nrOf cs .invalid + nrOf cs .identical + nrOf cs .duplicate + nrOf cs .valid := by
  induction cs with
  | nil => rfl
  | cons c cs ih =>
      simp only [nrOf, List.length_cons, List.countP_cons] at ih ⊢
      cases c.classification <;> simp <;> omega

/-- Counting candidates one by one adds the size of each class. -/
theorem RunSummary.foldl_addCandidate (s : RunSummary) (cs : List Candidate) :
    cs.foldl addCandidate s =
      { s with
        nrCandidates := s.nrCandidates + cs.length
        nrInvalid := s.nrInvalid + nrOf cs .invalid
        nrIdentical := s.nrIdentical + nrOf cs .identical
        nrDuplicate := s.nrDuplicate + nrOf cs .duplicate
        nrMutants := s.nrMutants + nrOf cs .valid } := by
  induction cs generalizing s with
  | nil => rfl
  | cons c cs ih =>
      rw [List.foldl_cons, ih]
      simp only [nrOf, List.length_cons, List.countP_cons, addCandidate]
      cases c.classification <;> simp <;> omega

namespace Job

/-- A failure adds a prompt and counts it under its kind. -/
theorem summary_after_error (j : Job) (p : Progress) (file : SourceFile) (prompt : Prompt)
    (failure : Failure) (w w' : World) :
    (j.after p ⟨file, prompt, .error failure, w, w'⟩).summary =
      { p.summary with
        nrPrompts := p.summary.nrPrompts + 1
        nrReplayMissing := p.summary.nrReplayMissing + if failure.isUnrecorded then 1 else 0
        nrQueryFailed := p.summary.nrQueryFailed + if failure.isUnrecorded then 0 else 1 } := by
  cases unrecorded : failure.isUnrecorded <;>
    simp [after, Progress.number, Progress.send, Progress.take, Progress.takeFailure, unrecorded]

/-- An answer adds a prompt, its tokens and its candidates by their classes. -/
theorem summary_after_ok (j : Job) (p : Progress) (file : SourceFile) (prompt : Prompt)
    (answer : Answer) (w w' : World) :
    let cs := (j.site file prompt.spec).ofCompletions [] answer.completions
    (j.after p ⟨file, prompt, .ok answer, w, w'⟩).summary =
      { p.summary with
        nrPrompts := p.summary.nrPrompts + 1
        usage := p.summary.usage.add answer.usage
        nrCandidates := p.summary.nrCandidates + cs.length
        nrInvalid := p.summary.nrInvalid + nrOf cs .invalid
        nrIdentical := p.summary.nrIdentical + nrOf cs .identical
        nrDuplicate := p.summary.nrDuplicate + nrOf cs .duplicate
        nrMutants := p.summary.nrMutants + nrOf cs .valid } := by
  simp only [after, Progress.take, Progress.takeAnswer, RunSummary.foldl_addCandidate]
  rfl

/-- The mutants of a turn: the valid candidates of its answer. -/
def mutantsOf (j : Job) (t : Turn) : List Mutant :=
  match t.outcome with
  | .error _ => []
  | .ok answer =>
      (((j.site t.file t.prompt.spec).ofCompletions [] answer.completions).filter
        (·.classification = .valid)).map (Mutant.ofCandidate · t.prompt.id)

theorem mutants_after (j : Job) (p : Progress) (t : Turn) :
    (j.after p t).mutants = p.mutants ++ j.mutantsOf t := by
  obtain ⟨file, prompt, failure | answer, w, w'⟩ := t
  · simp [after, Progress.take, Progress.takeFailure, Progress.send, Progress.number, mutantsOf]
  · rfl

@[simp] theorem nrPrompts_after (j : Job) (p : Progress) (t : Turn) :
    (j.after p t).summary.nrPrompts = p.summary.nrPrompts + 1 := by
  obtain ⟨file, prompt, failure | answer, w, w'⟩ := t
  · rw [summary_after_error]
  · rw [summary_after_ok]

@[simp] theorem nextId_after (j : Job) (p : Progress) (t : Turn) :
    (j.after p t).prompts.nextId = p.prompts.nextId + 1 := by
  obtain ⟨file, prompt, failure | answer, w, w'⟩ := t <;> rfl

end Job

end Mutagenesis
