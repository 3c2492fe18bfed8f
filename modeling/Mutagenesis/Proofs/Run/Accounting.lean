import Mathlib.Data.List.Infix
import Mathlib.Algebra.BigOperators.Group.List.Basic
import Mathlib.Algebra.Ring.Nat
import Mutagenesis.Proofs.Run.Progress

/-!
# The accounts of a run

Every specification that a run gets to is counted once, every prompt once, and every candidate
once. `Books` is the invariant: how the counts of a progress follow from the specifications visited
and the turns taken so far. Each kind of visit keeps it, and so does a whole run.
-/
namespace Mutagenesis

open Files (World)

/-- The candidates that a completion gives: one for each block, and one when it has none. -/
def nrProposals (completion : String) : Nat :=
  match extractFragments completion with
  | some fragments => fragments.length
  | none => 1

/-- The candidates that answers give. -/
def nrProposalsOf (answers : List Answer) : Nat :=
  ((answers.flatMap (·.completions)).map nrProposals).sum

/-- The tokens that answers have used. -/
def usageOf (answers : List Answer) : Usage where
  promptTokens := (answers.map (·.usage.promptTokens)).sum
  completionTokens := (answers.map (·.usage.completionTokens)).sum
  totalTokens := (answers.map (·.usage.totalTokens)).sum

/-- The answer of a query, if it has one. -/
def Said.answer? (s : Said) : Option Answer := s.outcome.toOption

/-- The answer to a turn, if it has one. -/
def Turn.answer? (t : Turn) : Option Answer := t.outcome.toOption

namespace Turn

/-- Whether a replay had no record for the prompt. -/
def isUnrecorded (t : Turn) : Bool :=
  match t.outcome with
  | .ok _ => false
  | .error failure => failure.isUnrecorded

/-- Whether the query failed otherwise. -/
def isFailed (t : Turn) : Bool :=
  match t.outcome with
  | .ok _ => false
  | .error failure => !failure.isUnrecorded

/-- A turn is answered, failed or unrecorded. -/
theorem length_eq_sum (ts : List Turn) :
    ts.length = ts.countP isFailed + ts.countP isUnrecorded + (ts.filterMap answer?).length := by
  induction ts with
  | nil => rfl
  | cons t ts ih =>
      obtain ⟨file, prompt, failure | answer, w, w'⟩ := t
      · by_cases unrecorded : failure.isUnrecorded
        · simp [List.filterMap_cons, isFailed, isUnrecorded, answer?, Except.toOption, unrecorded,
            ih]
          omega
        · simp [List.filterMap_cons, isFailed, isUnrecorded, answer?, Except.toOption, unrecorded,
            ih]
          omega
      · simp [isFailed, isUnrecorded, answer?, Except.toOption, ih]
        omega

end Turn

namespace Site

theorem length_classifyAll (s : Site) (seen proposals : List String) :
    (s.classifyAll seen proposals).1.length = proposals.length := by
  induction proposals generalizing seen with
  | nil => rfl
  | cons proposal proposals ih => simp [classifyAll, ih]

theorem length_ofCompletion (s : Site) (seen : List String) (completion : String) :
    (s.ofCompletion seen completion).1.length = nrProposals completion := by
  unfold ofCompletion nrProposals
  cases extractFragments completion with
  | none => rfl
  | some fragments => exact s.length_classifyAll seen fragments

/-- Completions give one candidate for each of their proposals. -/
theorem length_ofCompletions (s : Site) (seen completions : List String) :
    (s.ofCompletions seen completions).length = (completions.map nrProposals).sum := by
  induction completions generalizing seen with
  | nil => rfl
  | cons completion more ih =>
      simp only [ofCompletions, List.length_append, List.map_cons, List.sum_cons,
        length_ofCompletion, ih]

end Site

namespace Job

variable {σ : Type}

/-- The specifications that a run gets to: the shortest beginning of all that holds as many prompts
as the configuration allows, or all when there are fewer. -/
structure Reaches (j : Job) (all visited : List (SourceFile × PromptSpec)) : Prop where
  isPrefix : visited <+: all
  least : ∀ u, u <+: visited → u ≠ visited → u.countP j.asks < j.config.maxNrPrompts
  enough : j.config.maxNrPrompts ≤ visited.countP j.asks ∨ visited = all

/-- How the counts of a progress follow from what has been visited and the turns taken. -/
structure Books (j : Job) (visited : List (SourceFile × PromptSpec)) (ts : List Turn)
    (p : Progress) : Prop where
  prompts : p.summary.nrPrompts = ts.length
  asked : p.summary.nrPrompts = visited.countP j.asks
  visits : p.summary.nrSkipped + p.summary.nrPrompts = visited.length
  bounded : p.summary.nrPrompts ≤ j.config.maxNrPrompts
  least : ∀ u, u <+: visited → u ≠ visited → u.countP j.asks < j.config.maxNrPrompts
  failed : p.summary.nrQueryFailed = ts.countP Turn.isFailed
  missing : p.summary.nrReplayMissing = ts.countP Turn.isUnrecorded
  classes : p.summary.nrCandidates =
    p.summary.nrInvalid + p.summary.nrIdentical + p.summary.nrDuplicate + p.summary.nrMutants
  mutants : p.summary.nrMutants = p.mutants.length
  candidates : p.summary.nrCandidates = nrProposalsOf (ts.filterMap Turn.answer?)
  usage : p.summary.usage = usageOf (ts.filterMap Turn.answer?)

variable {j : Job} {m : Model σ} {visited : List (SourceFile × PromptSpec)} {ts : List Turn}
  {p : Progress} {file : SourceFile} {spec : PromptSpec}

theorem books_start (j : Job) : Books j [] [] (.start j.config) where
  prompts := rfl
  asked := rfl
  visits := rfl
  bounded := Nat.zero_le _
  least _ hu hne := absurd (List.prefix_nil.1 hu) hne
  failed := rfl
  missing := rfl
  classes := rfl
  mutants := rfl
  candidates := rfl
  usage := rfl

namespace Books

/-- While there is room, all that has been visited holds fewer prompts than are allowed. -/
theorem least_concat (b : Books j visited ts p) (room : j.isFull p = false)
    (x : SourceFile × PromptSpec) (u : List (SourceFile × PromptSpec)) (hu : u <+: visited ++ [x])
    (hne : u ≠ visited ++ [x]) : u.countP j.asks < j.config.maxNrPrompts := by
  have hp : u <+: visited := (List.prefix_concat_iff.1 hu).resolve_left hne
  have hc := hp.sublist.countP_le (p := j.asks)
  have hroom : p.summary.nrPrompts < j.config.maxNrPrompts := by
    simpa [isFull] using room
  have := b.asked
  omega

/-- A specification that gets no prompt is counted as skipped. -/
theorem skip (b : Books j visited ts p) (room : j.isFull p = false)
    (idle : j.asks (file, spec) = false) : Books j (visited ++ [(file, spec)]) ts p.skip where
  prompts := b.prompts
  asked := by
    have := b.asked
    simpa [Progress.skip, List.countP_append, idle] using this
  visits := by
    have := b.visits
    simp only [Progress.skip, List.length_append, List.length_cons, List.length_nil]
    omega
  bounded := b.bounded
  least := b.least_concat room (file, spec)
  failed := b.failed
  missing := b.missing
  classes := b.classes
  mutants := b.mutants
  candidates := b.candidates
  usage := b.usage

/-- Taking a number changes no count. -/
theorem number (b : Books j visited ts p) : Books j visited ts p.number :=
  ⟨b.prompts, b.asked, b.visits, b.bounded, b.least, b.failed, b.missing, b.classes, b.mutants,
    b.candidates, b.usage⟩

/-- A prompt that fails is counted as sent and under its kind of failure. -/
theorem fail (b : Books j visited ts p) (room : j.isFull p = false)
    (asks : j.asks (file, spec) = true) (prompt : Prompt) (failure : Failure)
    (w w' : World) :
    Books j (visited ++ [(file, spec)]) (ts ++ [⟨file, prompt, .error failure, w, w'⟩])
      (j.after p ⟨file, prompt, .error failure, w, w'⟩) := by
  have hroom : p.summary.nrPrompts < j.config.maxNrPrompts := by simpa [isFull] using room
  have hs := summary_after_error j p file prompt failure w w'
  have hm := mutants_after j p ⟨file, prompt, .error failure, w, w'⟩
  exact {
    prompts := by simp [hs, b.prompts]
    asked := by simp [hs, b.asked, List.countP_append, asks]
    visits := by
      have := b.visits
      simp only [hs, List.length_append, List.length_cons, List.length_nil]
      omega
    bounded := by rw [hs]; exact hroom
    least := b.least_concat room (file, spec)
    failed := by
      cases unrecorded : failure.isUnrecorded <;>
        simp [hs, b.failed, List.countP_append, Turn.isFailed, unrecorded]
    missing := by
      cases unrecorded : failure.isUnrecorded <;>
        simp [hs, b.missing, List.countP_append, Turn.isUnrecorded, unrecorded]
    classes := by rw [hs]; exact b.classes
    mutants := by simpa [hs, hm, mutantsOf] using b.mutants
    candidates := by
      simpa [hs, List.filterMap_cons, Turn.answer?, Except.toOption] using b.candidates
    usage := by simpa [hs, List.filterMap_cons, Turn.answer?, Except.toOption] using b.usage }

/-- A prompt that is answered is counted as sent, its tokens are added up, and each of its
candidates is counted under its class. -/
theorem answer (b : Books j visited ts p) (room : j.isFull p = false)
    (asks : j.asks (file, spec) = true) (prompt : Prompt) (answer : Answer)
    (w w' : World) :
    Books j (visited ++ [(file, spec)]) (ts ++ [⟨file, prompt, .ok answer, w, w'⟩])
      (j.after p ⟨file, prompt, .ok answer, w, w'⟩) := by
  have hroom : p.summary.nrPrompts < j.config.maxNrPrompts := by simpa [isFull] using room
  have hs := summary_after_ok j p file prompt answer w w'
  have hm := mutants_after j p ⟨file, prompt, .ok answer, w, w'⟩
  have classed := length_eq_nrOf ((j.site file prompt.spec).ofCompletions [] answer.completions)
  have proposed := (j.site file prompt.spec).length_ofCompletions [] answer.completions
  exact {
    prompts := by simp [hs, b.prompts]
    asked := by simp [hs, b.asked, List.countP_append, asks]
    visits := by
      have := b.visits
      simp only [hs, List.length_append, List.length_cons, List.length_nil]
      omega
    bounded := by rw [hs]; exact hroom
    least := b.least_concat room (file, spec)
    failed := by simp [hs, b.failed, List.countP_append, Turn.isFailed]
    missing := by simp [hs, b.missing, List.countP_append, Turn.isUnrecorded]
    classes := by
      have := b.classes
      simp only [hs]
      omega
    mutants := by
      simp [hs, hm, mutantsOf, b.mutants, nrOf, List.countP_eq_length_filter]
    candidates := by
      simp [hs, b.candidates, nrProposalsOf, Turn.answer?, Except.toOption, proposed]
    usage := by
      simp [hs, b.usage, usageOf, Usage.add, Turn.answer?, Except.toOption] }

/-- A turn is counted once, whatever comes of it. -/
theorem after (b : Books j visited ts p) (room : j.isFull p = false)
    (asks : j.asks (file, spec) = true) (prompt : Prompt) (outcome : Except Failure Answer)
    (w w' : World) :
    Books j (visited ++ [(file, spec)]) (ts ++ [⟨file, prompt, outcome, w, w'⟩])
      (j.after p ⟨file, prompt, outcome, w, w'⟩) := by
  cases outcome with
  | error failure => exact b.fail room asks prompt failure w w'
  | ok answer => exact b.answer room asks prompt answer w w'

/-- The books stay right on the whole way of a run, which goes on as long as there is room. -/
theorem run {specs : List (SourceFile × PromptSpec)} {s s' : World × σ} {ts' : List Turn}
    {p' : Progress} (way : Visits j m specs p s ts' p' s') (b : Books j visited ts p) :
    ∃ more, more <+: specs ∧ Books j (visited ++ more) (ts ++ ts') p' ∧
      (j.isFull p' = true ∨ more = specs) := by
  induction way generalizing visited ts with
  | done => exact ⟨[], List.prefix_rfl, by simpa using b, .inr rfl⟩
  | full full => exact ⟨[], List.nil_prefix, by simpa using b, .inl full⟩
  | @unfit file spec _ _ _ _ _ _ room unfit _ ih =>
      have idle : j.asks (file, spec) = false := by simp [asks, unfit]
      obtain ⟨more, hp, hb, hend⟩ := ih (b.skip room idle)
      exact ⟨(file, spec) :: more, List.cons_prefix_cons.2 ⟨rfl, hp⟩, by simpa using hb,
        hend.imp_right (congrArg _)⟩
  | @filtered file spec _ _ _ _ _ _ _ room _ skipped _ ih =>
      have idle : j.asks (file, spec) = false := by simp [asks, skipped]
      obtain ⟨more, hp, hb, hend⟩ := ih (b.number.skip room idle)
      exact ⟨(file, spec) :: more, List.cons_prefix_cons.2 ⟨rfl, hp⟩, by simpa using hb,
        hend.imp_right (congrArg _)⟩
  | @asked file spec _ _ _ _ _ _ code outcome _ _ room fits kept _ _ _ ih =>
      have asks : j.asks (file, spec) = true := by simp [Job.asks, fits, kept]
      obtain ⟨more, hp, hb, hend⟩ := ih (b.after room asks _ outcome _ _)
      exact ⟨(file, spec) :: more, List.cons_prefix_cons.2 ⟨rfl, hp⟩, by simpa using hb,
        hend.imp_right (congrArg _)⟩

/-- When no prompt has failed and none was missing, each has an answer. -/
theorem answered (b : Books j visited ts p) (failed : p.summary.nrQueryFailed = 0)
    (missing : p.summary.nrReplayMissing = 0) : ∀ t ∈ ts, ∃ answer, t.outcome = .ok answer := by
  rw [b.failed, List.countP_eq_zero] at failed
  rw [b.missing, List.countP_eq_zero] at missing
  intro t ht
  cases outcome : t.outcome with
  | ok answer => exact ⟨answer, rfl⟩
  | error failure =>
      have counted := failed t ht
      simp only [Turn.isFailed, outcome, Bool.not_eq_true, Bool.not_eq_false'] at counted
      exact absurd (by simpa [Turn.isUnrecorded, outcome] using counted) (missing t ht)

end Books

/-- The accounts of a run: how its summary follows from what the model was asked and said. -/
structure Accounts (j : Job) (m : Model σ) (files : List SourceFile) (s : World × σ)
    (r : RunResult) : Prop where
  classes : r.summary.nrCandidates = r.summary.nrInvalid + r.summary.nrIdentical +
    r.summary.nrDuplicate + r.summary.nrMutants
  mutants : r.summary.nrMutants = r.mutants.length
  outcomes : r.summary.nrPrompts = r.summary.nrQueryFailed + r.summary.nrReplayMissing +
    ((j.log m files s).filterMap Said.answer?).length
  queries : r.summary.nrPrompts = (j.log m files s).length
  bounded : r.summary.nrPrompts ≤ j.config.maxNrPrompts
  visits : ∃ visited, j.Reaches (specsOf files) visited ∧
    r.summary.nrPrompts = visited.countP j.asks ∧
    r.summary.nrSkipped + r.summary.nrPrompts = visited.length
  candidates : r.summary.nrCandidates =
    nrProposalsOf ((j.log m files s).filterMap Said.answer?)
  usage : r.summary.usage = usageOf ((j.log m files s).filterMap Said.answer?)

/-- A run that comes to its end loses nothing and counts nothing twice. -/
theorem generate_accounts {files : List SourceFile} {s s' : World × σ} {r : RunResult}
    (h : j.generate m files s = (.ok r, s')) : j.Accounts m files s r := by
  obtain ⟨w₁, p, w₂, s₂, -, way, rfl, -, -⟩ := generate_eq_ok h
  obtain ⟨visited, hp, b, hend⟩ := (books_start j).run way
  simp only [List.nil_append] at b
  have answers : (j.log m files s).filterMap Said.answer? =
      (j.turns m files s).filterMap Turn.answer? := by
    rw [log_eq_turns, List.filterMap_map]
    rfl
  have reaches : j.Reaches (specsOf files) visited := by
    refine ⟨hp, b.least, hend.imp_left fun full => ?_⟩
    have := b.asked
    simp only [isFull, decide_eq_true_eq] at full
    omega
  have sorts := Turn.length_eq_sum (j.turns m files s)
  rw [← b.prompts, ← b.failed, ← b.missing] at sorts
  exact {
    classes := b.classes
    mutants := b.mutants
    outcomes := by rw [answers]; exact sorts
    queries := by rw [log_eq_turns, List.length_map]; exact b.prompts
    bounded := b.bounded
    visits := ⟨visited, reaches, b.asked, b.visits⟩
    candidates := by rw [answers]; exact b.candidates
    usage := by rw [answers]; exact b.usage }

/-- A run of three prompts, of which one fails and two are answered with a proposal of each
class, past two specifications that do not fit or are not reached. -/
theorem accounts_of_each_class :
    let file : SourceFile := ⟨"a.py", .python, "f(x)\n",
      [⟨.between "a.py" (1, 0) (1, 1), "f", "callee"⟩,
        ⟨.between "a.py" (3, 0) (3, 1), "f", "callee"⟩,
        ⟨.between "a.py" (1, 1) (1, 4), "(x)", "call arguments"⟩,
        ⟨.between "a.py" (1, 0) (1, 4), "f(x)", "call"⟩,
        ⟨.between "a.py" (1, 2) (1, 3), "x", "name"⟩]⟩
    let j : Job := ⟨{ Config.standard with maxNrPrompts := 3 }, "\x7b\x7bcode\x7d\x7d", .none, none⟩
    let m := Model.scripted ⟨"m", .zero, 1, ""⟩
    let s : World × List (Except Failure Answer) := (⟨[], []⟩,
      [.ok ⟨["\x60\x60\x60\ng\n\x60\x60\x60 or \x60\x60\x60\nf\n\x60\x60\x60",
          "\x60\x60\x60\ng \n\x60\x60\x60"], ⟨3, 4, 7⟩⟩,
        .error .recorded, .ok ⟨["none"], ⟨1, 1, 2⟩⟩])
    ∃ r s', j.generate m [file] s = (.ok r, s') ∧
      (r.summary.nrInvalid, r.summary.nrIdentical, r.summary.nrDuplicate, r.summary.nrMutants,
        r.summary.nrSkipped) = (1, 1, 1, 1, 1) ∧
      j.Accounts m [file] s r := by
  intro file j m s
  have counts : (j.generate m [file] s).1.toOption.map (fun r =>
      (r.summary.nrInvalid, r.summary.nrIdentical, r.summary.nrDuplicate, r.summary.nrMutants,
        r.summary.nrSkipped)) = some (1, 1, 1, 1, 1) := by decide +kernel
  obtain ⟨r, s', h⟩ : ∃ r s', j.generate m [file] s = (.ok r, s') :=
    exists_generate_eq (by decide +kernel)
  rw [h] at counts
  exact ⟨r, s', h, Option.some.inj counts, generate_accounts h⟩

end Job

end Mutagenesis
