import Mutagenesis.Proofs.Mutant.Classes
import Mutagenesis.Proofs.Run.Progress

/-!
# Completions in another order

The candidates of an answer are the same in number and in valid replacements whatever the order of
its completions. Whether a proposal is refused, and whether it changes nothing, does not depend on
the others. Of equal texts the first one is valid and the others are duplicates, so which is which
changes with the order, but the valid replacements are always the distinct texts that may take the
place of the fragment.
-/
namespace Mutagenesis

/-- There are as many valid candidates as valid replacements. -/
theorem nrOf_valid (cs : List Candidate) : nrOf cs .valid = (validTexts cs).length := by
  simp [nrOf, validTexts, validOf, List.countP_eq_length_filter]

namespace Site

variable {s : Site}

/-- What has been seen matters only to texts that are neither refused nor the fragment again. -/
theorem judge_settled {k : Classification} (settled : k = .invalid ∨ k = .identical)
    (seen : List String) (p : Proposal) :
    (s.judge seen p).classification = k ↔ (s.judge [] p).classification = k := by
  cases p with
  | prose text => rfl
  | code text =>
      obtain ⟨invalid, identical, -, -⟩ := classOf_spec (s := s) seen (Text.trimmed text)
      obtain ⟨invalid', identical', -, -⟩ := classOf_spec (s := s) [] (Text.trimmed text)
      simp only [judge_code, candidate]
      obtain rfl | rfl := settled
      · rw [invalid, invalid']
      · rw [identical, identical']

theorem nrOf_judgeAll {k : Classification} (settled : k = .invalid ∨ k = .identical)
    (seen : List String) (ps : List Proposal) :
    nrOf (s.judgeAll seen ps) k = ps.countP fun p => (s.judge [] p).classification = k := by
  induction ps generalizing seen with
  | nil => rfl
  | cons p ps ih =>
      have first := judge_settled (s := s) settled seen p
      simp only [nrOf] at ih
      simp only [nrOf, judgeAll_cons, List.countP_cons, ih, first]

/-- Whether a proposal offers a text as a change of the fragment. -/
def Offers (s : Site) (p : Proposal) (text : String) : Prop :=
  ¬ s.Declines p ∧ Text.trimmed p.text = text ∧ text ≠ Text.trimmed s.spec.orig

/-- A proposal adds the text it offers to those seen. -/
theorem mem_seen_judge (seen : List String) (p : Proposal) (text : String) :
    text ∈ seen ++ validTexts [s.judge seen p] ↔ text ∈ seen ∨ s.Offers p text := by
  cases p with
  | prose own => simp [judge, malformed, candidate, validTexts_singleton, Offers, Declines]
  | code own =>
      obtain ⟨-, -, -, valid⟩ := classOf_spec (s := s) seen (Text.trimmed own)
      rw [List.mem_append, validTexts_singleton, judge_code, List.mem_ite_nil_right,
        List.mem_singleton]
      simp only [candidate, Offers, Declines, Proposal.text, valid]
      constructor
      · rintro (old | ⟨⟨accepted, changed, -⟩, rfl⟩)
        · exact .inl old
        · exact .inr ⟨accepted, rfl, changed⟩
      · rintro (old | ⟨accepted, rfl, changed⟩)
        · exact .inl old
        · by_cases old : Text.trimmed own ∈ seen
          · exact .inl old
          · exact .inr ⟨⟨accepted, changed, old⟩, rfl⟩

/-- The valid replacements are the texts that are offered. -/
theorem mem_seen_judgeAll (seen : List String) (ps : List Proposal) (text : String) :
    text ∈ seen ++ validTexts (s.judgeAll seen ps) ↔
      text ∈ seen ∨ ∃ p ∈ ps, s.Offers p text := by
  induction ps generalizing seen with
  | nil => simp
  | cons p ps ih =>
      have texts := validTexts_cons (s.judge seen p)
        (s.judgeAll (seen ++ validTexts [s.judge seen p]) ps)
      rw [judgeAll_cons, texts, ← List.append_assoc, ih, mem_seen_judge, or_assoc,
        List.exists_mem_cons_iff]

/-- In any order the completions of an answer have as many candidates of each class and the same
valid replacements. -/
theorem completions_in_any_order (s : Site) {completions completions' : List String}
    (same : completions.Perm completions') :
    (∀ k, nrOf (s.ofCompletions [] completions) k = nrOf (s.ofCompletions [] completions') k) ∧
      ∀ text, text ∈ validTexts (s.ofCompletions [] completions) ↔
        text ∈ validTexts (s.ofCompletions [] completions') := by
  have distinct := nodup_ofCompletions (s := s) List.nodup_nil completions
  have distinct' := nodup_ofCompletions (s := s) List.nodup_nil completions'
  rw [List.nil_append] at distinct distinct'
  have proposals : (completions.flatMap Proposal.ofCompletion).Perm
      (completions'.flatMap Proposal.ofCompletion) := same.flatMap_right _
  have texts : ∀ text, text ∈ validTexts (s.ofCompletions [] completions) ↔
      text ∈ validTexts (s.ofCompletions [] completions') := by
    intro text
    have offered := mem_seen_judgeAll (s := s) [] (completions.flatMap Proposal.ofCompletion) text
    have offered' := mem_seen_judgeAll (s := s) [] (completions'.flatMap Proposal.ofCompletion) text
    rw [List.nil_append] at offered offered'
    rw [ofCompletions_eq, ofCompletions_eq, offered, offered']
    simp only [proposals.mem_iff]
  have settled : ∀ k, k = .invalid ∨ k = .identical →
      nrOf (s.ofCompletions [] completions) k = nrOf (s.ofCompletions [] completions') k := by
    intro k hk
    rw [ofCompletions_eq, ofCompletions_eq, nrOf_judgeAll hk, nrOf_judgeAll hk]
    exact proposals.countP_eq _
  have valid : nrOf (s.ofCompletions [] completions) .valid =
      nrOf (s.ofCompletions [] completions') .valid := by
    rw [nrOf_valid, nrOf_valid]
    exact ((List.perm_ext_iff_of_nodup distinct distinct').2 texts).length_eq
  have length : (s.ofCompletions [] completions).length =
      (s.ofCompletions [] completions').length := by
    rw [ofCompletions_eq, ofCompletions_eq, length_judgeAll, length_judgeAll]
    exact proposals.length_eq
  refine ⟨fun k => ?_, texts⟩
  have invalid := settled .invalid (.inl rfl)
  have identical := settled .identical (.inr rfl)
  cases k with
  | valid => exact valid
  | invalid => exact invalid
  | identical => exact identical
  | duplicate =>
      -- the duplicates are what the other three classes leave
      rw [length_eq_nrOf, length_eq_nrOf] at length
      omega

/-- Two completions propose code and one does not. In either order two of the six candidates are
valid, but another one of the two with the same text. -/
theorem completions_in_either_order :
    let s : Site := ⟨.python, "if a > b:\n  pass\n",
      ⟨.between "a.py" (1, 3) (1, 8), "a > b", "if condition"⟩, 1⟩
    let completions := [
      "\x60\x60\x60\na < b\n\x60\x60\x60 or \x60\x60\x60py\na >\n\x60\x60\x60",
      "Use a < b.",
      "\x60\x60\x60\n a < b \n\x60\x60\x60\x60\x60\x60\na > b\n\x60\x60\x60" ++
        "\x60\x60\x60\nb\n\x60\x60\x60"]
    (s.ofCompletions [] completions).map (·.classification) =
        [.valid, .invalid, .invalid, .duplicate, .identical, .valid] ∧
      (s.ofCompletions [] completions.reverse).map (·.classification) =
        [.valid, .identical, .valid, .invalid, .duplicate, .invalid] ∧
      (∀ k, nrOf (s.ofCompletions [] completions) k =
        nrOf (s.ofCompletions [] completions.reverse) k) ∧
      ∀ text, text ∈ validTexts (s.ofCompletions [] completions) ↔
        text ∈ validTexts (s.ofCompletions [] completions.reverse) := by
  intro s completions
  have same : completions.Perm completions.reverse := (List.reverse_perm completions).symm
  exact ⟨by decide +kernel, by decide +kernel, completions_in_any_order s same⟩

end Site

end Mutagenesis
