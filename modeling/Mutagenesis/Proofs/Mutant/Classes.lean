import Mathlib.Data.List.InsertIdx
import Mutagenesis.Proofs.Mutant.Candidates

/-!
# The classes of proposals

The class of a proposal in terms of the candidates before it. The replacements that are kept on the
way are those of the valid candidates so far, so a proposal is a duplicate exactly when an earlier
candidate was valid with the same replacement, and whatever became of any other one is forgotten.
-/
namespace Mutagenesis

/-- What a completion proposes: the code of a block, or no code at all. -/
inductive Proposal where
  | code (text : String)
  | prose (text : String)

namespace Proposal

def text : Proposal → String
  | code text => text
  | prose text => text

/-- The proposals of a completion. -/
def ofCompletion (completion : String) : List Proposal :=
  match extractFragments completion with
  | some fragments => fragments.map code
  | none => [prose completion]

end Proposal

namespace Site

variable {s : Site}

/-- The candidate of a proposal after the valid replacements seen so far. -/
def judge (s : Site) (seen : List String) : Proposal → Candidate
  | .code text => (s.classify seen text).1
  | .prose text => s.malformed text

/-- The candidates of proposals in turn. -/
def judgeAll (s : Site) (seen : List String) : List Proposal → List Candidate
  | [] => []
  | p :: ps => s.judge seen p :: judgeAll s (seen ++ validTexts [s.judge seen p]) ps

@[simp] theorem judgeAll_nil (seen : List String) : s.judgeAll seen [] = [] := rfl

theorem judgeAll_cons (seen : List String) (p : Proposal) (ps : List Proposal) :
    s.judgeAll seen (p :: ps) =
      s.judge seen p :: s.judgeAll (seen ++ validTexts [s.judge seen p]) ps := rfl

theorem judgeAll_append (seen : List String) (ps qs : List Proposal) :
    s.judgeAll seen (ps ++ qs) =
      s.judgeAll seen ps ++ s.judgeAll (seen ++ validTexts (s.judgeAll seen ps)) qs := by
  induction ps generalizing seen with
  | nil => simp
  | cons p ps ih =>
      have texts := validTexts_cons (s.judge seen p)
        (s.judgeAll (seen ++ validTexts [s.judge seen p]) ps)
      rw [List.cons_append, judgeAll_cons, ih, judgeAll_cons, texts, List.cons_append,
        List.append_assoc]

theorem length_judgeAll (seen : List String) (ps : List Proposal) :
    (s.judgeAll seen ps).length = ps.length := by
  induction ps generalizing seen with
  | nil => rfl
  | cons p ps ih => simp [judgeAll_cons, ih]

/-- Each proposal is judged after the valid replacements of the candidates before its own. -/
theorem getElem?_judgeAll (seen : List String) (ps : List Proposal) (i : Nat) :
    (s.judgeAll seen ps)[i]? =
      ps[i]?.map (s.judge (seen ++ validTexts ((s.judgeAll seen ps).take i))) := by
  induction ps generalizing seen i with
  | nil => simp
  | cons p ps ih =>
      cases i with
      | zero => simp [judgeAll_cons]
      | succ i =>
          have texts := validTexts_cons (s.judge seen p)
            ((s.judgeAll (seen ++ validTexts [s.judge seen p]) ps).take i)
          rw [judgeAll_cons, List.getElem?_cons_succ, List.getElem?_cons_succ, List.take_succ_cons,
            ih, texts, List.append_assoc]

/-- A proposal whose candidate is not valid leaves no trace among the others. -/
theorem judgeAll_eraseIdx {seen : List String} {ps : List Proposal} {i : Nat} {c : Candidate}
    (h : (s.judgeAll seen ps)[i]? = some c) (spoiled : c.classification ≠ .valid) :
    s.judgeAll seen (ps.eraseIdx i) = (s.judgeAll seen ps).eraseIdx i := by
  induction ps generalizing seen i with
  | nil => rfl
  | cons p ps ih =>
      cases i with
      | zero =>
          obtain rfl : s.judge seen p = c := by simpa [judgeAll_cons] using h
          simp [judgeAll_cons, validTexts_singleton, spoiled]
      | succ i =>
          rw [judgeAll_cons, List.getElem?_cons_succ] at h
          rw [List.eraseIdx_cons_succ, judgeAll_cons, ih h, judgeAll_cons, List.eraseIdx_cons_succ]

theorem classifyAll_eq (seen : List String) (texts : List String) :
    s.classifyAll seen texts =
      (s.judgeAll seen (texts.map .code),
        seen ++ validTexts (s.judgeAll seen (texts.map .code))) := by
  induction texts generalizing seen with
  | nil => simp [classifyAll]
  | cons text texts ih =>
      have kept : (s.classify seen text).2 = seen ++ validTexts [s.judge seen (.code text)] :=
        classify_seen seen text
      have texts' := validTexts_cons (s.judge seen (.code text))
        (s.judgeAll (seen ++ validTexts [s.judge seen (.code text)]) (texts.map .code))
      rw [classifyAll_cons, kept, ih, List.map_cons, judgeAll_cons, texts', List.append_assoc]
      rfl

theorem ofCompletion_eq (seen : List String) (completion : String) :
    s.ofCompletion seen completion =
      (s.judgeAll seen (Proposal.ofCompletion completion),
        seen ++ validTexts (s.judgeAll seen (Proposal.ofCompletion completion))) := by
  cases h : extractFragments completion with
  | none =>
      simp [ofCompletion, Proposal.ofCompletion, h, judgeAll_cons, judge, malformed, candidate,
        validTexts_singleton]
  | some fragments =>
      simpa [ofCompletion, Proposal.ofCompletion, h] using classifyAll_eq seen fragments

theorem ofCompletions_eq (seen : List String) (completions : List String) :
    s.ofCompletions seen completions =
      s.judgeAll seen (completions.flatMap Proposal.ofCompletion) := by
  induction completions generalizing seen with
  | nil => rfl
  | cons completion more ih =>
      simp only [ofCompletions, ofCompletion_eq, ih, List.flatMap_cons, judgeAll_append]

/-! ## The rules -/

/-- Whether a proposal is refused: it holds no code, or its code is refused without the blanks
around it. -/
def Declines (s : Site) : Proposal → Prop
  | .code text => s.Refuses (Text.trimmed text)
  | .prose _ => True

/-- A candidate stands for its site and proposal, and has the class that the rules give it after
the candidates before it. -/
structure Judged (s : Site) (earlier : List Candidate) (p : Proposal) (c : Candidate) : Prop where
  location : c.location = s.spec.location
  original : c.original = s.spec.orig
  replacement : c.replacement = Text.trimmed p.text
  invalid : c.classification = .invalid ↔ s.Declines p
  identical : c.classification = .identical ↔
    ¬ s.Declines p ∧ Text.trimmed p.text = Text.trimmed s.spec.orig
  duplicate : c.classification = .duplicate ↔
    ¬ s.Declines p ∧ Text.trimmed p.text ≠ Text.trimmed s.spec.orig ∧
      ∃ d ∈ earlier, d.classification = .valid ∧ d.replacement = Text.trimmed p.text
  valid : c.classification = .valid ↔
    ¬ s.Declines p ∧ Text.trimmed p.text ≠ Text.trimmed s.spec.orig ∧
      ∀ d ∈ earlier, d.classification = .valid → d.replacement ≠ Text.trimmed p.text

theorem judge_code (seen : List String) (text : String) :
    s.judge seen (.code text) =
      s.candidate (Text.trimmed text) (s.classOf seen (Text.trimmed text)) :=
  classify_fst seen text

/-- A candidate has the class that the rules give it. -/
theorem judged_judge (s : Site) (earlier : List Candidate) (p : Proposal) :
    s.Judged earlier p (s.judge (validTexts earlier) p) := by
  cases p with
  | prose text => constructor <;> simp [judge, malformed, candidate, Proposal.text, Declines]
  | code text =>
      obtain ⟨invalid, identical, duplicate, valid⟩ :=
        classOf_spec (s := s) (validTexts earlier) (Text.trimmed text)
      simp only [mem_validTexts, not_exists, not_and] at duplicate valid
      rw [judge_code]
      refine ⟨rfl, rfl, rfl, ?invalid, ?identical, ?duplicate, ?valid⟩
      all_goals simp only [candidate, Proposal.text, Declines]
      case invalid => exact invalid
      case identical => exact identical
      case duplicate => exact duplicate
      case valid => exact valid

/-- Candidates of proposals in turn: each is judged after those before it, and no two valid ones
have the same replacement. -/
structure JudgedInTurn (s : Site) (ps : List Proposal) (cs : List Candidate) : Prop where
  length : cs.length = ps.length
  judged : ∀ i p c, ps[i]? = some p → cs[i]? = some c → s.Judged (cs.take i) p c
  distinct : (validTexts cs).Nodup

theorem judgedInTurn_judgeAll {ps : List Proposal}
    (distinct : (validTexts (s.judgeAll [] ps)).Nodup) :
    s.JudgedInTurn ps (s.judgeAll [] ps) where
  length := length_judgeAll [] ps
  judged := by
    intro i p c hp hc
    rw [getElem?_judgeAll, hp, Option.map_some, Option.some.injEq, List.nil_append] at hc
    rw [← hc]
    exact judged_judge s _ p
  distinct := distinct

/-- The rules decide the class of every text that is classified and of every proposal of an answer.
A text whose candidate is not valid may be left out, and no other candidate changes. -/
theorem classes_are_exact (s : Site) :
    (∀ texts, s.JudgedInTurn (texts.map .code) (s.classifyAll [] texts).1) ∧
      (∀ completions, s.JudgedInTurn (completions.flatMap Proposal.ofCompletion)
        (s.ofCompletions [] completions)) ∧
      ∀ texts i c, (s.classifyAll [] texts).1[i]? = some c → c.classification ≠ .valid →
        (s.classifyAll [] (texts.eraseIdx i)).1 = (s.classifyAll [] texts).1.eraseIdx i := by
  refine ⟨fun texts => ?_, fun completions => ?_, fun texts i c hc spoiled => ?_⟩
  · obtain ⟨-, kept, distinct⟩ := classifyAll_spec (s := s) List.nodup_nil texts
    rw [kept, List.nil_append] at distinct
    rw [classifyAll_eq] at distinct ⊢
    exact judgedInTurn_judgeAll distinct
  · have distinct := nodup_ofCompletions (s := s) List.nodup_nil completions
    rw [List.nil_append, ofCompletions_eq] at distinct
    rw [ofCompletions_eq]
    exact judgedInTurn_judgeAll distinct
  · rw [classifyAll_eq] at hc
    rw [classifyAll_eq, classifyAll_eq, ← List.eraseIdx_map, judgeAll_eraseIdx hc spoiled]

/-- A condition with seven texts in turn: two that are refused, one that changes nothing, and four
of two kinds, of which the first of each kind is valid. Without the refused first text the others
stay as they are. -/
theorem classes_are_exact_for_condition :
    let s : Site := ⟨.python, "if a > b:\n  pass\n",
      ⟨.between "a.py" (1, 3) (1, 8), "a > b", "if condition"⟩, 1⟩
    let texts := ["a >", " a < b ", "a > b", "a\n< b", "a < b", "b", "\tb\n"]
    let cs := (s.classifyAll [] texts).1
    cs.map (·.classification) =
        [.invalid, .valid, .identical, .invalid, .duplicate, .valid, .duplicate] ∧
      (∃ c, cs[4]? = some c ∧ s.Judged (cs.take 4) (.code "a < b") c) ∧
      (s.classifyAll [] texts.tail).1 = cs.tail := by
  intro s texts cs
  have classes : cs.map (·.classification) =
      [.invalid, .valid, .identical, .invalid, .duplicate, .valid, .duplicate] := by decide +kernel
  obtain ⟨inTurn, -, leftOut⟩ := classes_are_exact s
  have judged : ∃ c, cs[4]? = some c ∧ s.Judged (cs.take 4) (.code "a < b") c := by
    obtain ⟨c, hc⟩ : ∃ c, cs[4]? = some c := by
      rw [← Option.isSome_iff_exists]
      decide +kernel
    exact ⟨c, hc, (inTurn texts).judged 4 _ c rfl hc⟩
  obtain ⟨c, hc⟩ : ∃ c, cs[0]? = some c := by
    rw [← Option.isSome_iff_exists]
    decide +kernel
  have invalid : c.classification = .invalid := by
    have := congrArg (·[0]?) classes
    simpa [hc] using this
  have rest := leftOut texts 0 c hc (by simp [invalid])
  exact ⟨classes, judged, by simpa using rest⟩

end Site

end Mutagenesis
