import Mutagenesis.Proofs.Location
import Mutagenesis.Proofs.Text
import Mutagenesis.Run.Generate

/-!
# Valid candidates

What a site lets through, and what it refuses a text for. Whatever an answer proposes, a valid
candidate of a site is trimmed, is accepted at the site and is not the fragment that stands there,
and no two valid candidates of one answer have the same replacement: the replacements seen so far
are those of the valid candidates, each once.
-/
namespace Mutagenesis

/-- The candidates that become mutants. -/
def validOf (cs : List Candidate) : List Candidate := cs.filter (·.classification = .valid)

@[simp] theorem mem_validOf {cs : List Candidate} {c : Candidate} :
    c ∈ validOf cs ↔ c ∈ cs ∧ c.classification = .valid := by
  simp [validOf]

@[simp] theorem validOf_append (cs ds : List Candidate) :
    validOf (cs ++ ds) = validOf cs ++ validOf ds :=
  List.filter_append ..

/-- The replacements of the valid candidates. -/
def validTexts (cs : List Candidate) : List String := (validOf cs).map (·.replacement)

@[simp] theorem validTexts_nil : validTexts [] = [] := rfl

@[simp] theorem validTexts_append (cs ds : List Candidate) :
    validTexts (cs ++ ds) = validTexts cs ++ validTexts ds := by
  simp [validTexts]

theorem validTexts_cons (c : Candidate) (cs : List Candidate) :
    validTexts (c :: cs) = validTexts [c] ++ validTexts cs :=
  validTexts_append [c] cs

theorem validTexts_singleton (c : Candidate) :
    validTexts [c] = if c.classification = .valid then [c.replacement] else [] := by
  by_cases h : c.classification = .valid <;> simp [validTexts, validOf, h]

theorem mem_validTexts {cs : List Candidate} {text : String} :
    text ∈ validTexts cs ↔ ∃ c ∈ cs, c.classification = .valid ∧ c.replacement = text := by
  simp [validTexts, and_assoc]

namespace Site

/-- What a text is refused for: it is empty in place of something, it takes too many lines, or it
cannot be put into the source so that it parses. -/
def Refuses (s : Site) (text : String) : Prop :=
  (text = "" ∧ Text.trimmed s.spec.orig ≠ "") ∨ s.maxLines < Text.nrLines text.toList ∨
    s.spec.location.fits s.source = false ∨
    ∃ spliced, splice s.source s.spec.location text = some spliced ∧
      s.language.isValid spliced = false

/-- A candidate that stands for a site and, if it is valid, may take the place of the fragment. -/
structure Vets (s : Site) (c : Candidate) : Prop where
  location : c.location = s.spec.location
  original : c.original = s.spec.orig
  trimmed : Text.trimmed c.replacement = c.replacement
  accepted : c.classification = .valid → s.accepts c.replacement = true
  changed : c.classification = .valid → c.replacement ≠ s.spec.orig

variable {s : Site}

/-- A text is refused when it is not accepted. -/
theorem accepts_eq_false_iff (text : String) : s.accepts text = false ↔ s.Refuses text := by
  have fits := isSome_splice s.source s.spec.location text
  simp only [accepts, Refuses, Text.length_lines]
  by_cases empty : text = "" ∧ Text.trimmed s.spec.orig ≠ ""
  · simp [empty]
  by_cases long : s.maxLines < Text.nrLines text.toList
  · simp [long]
  have filled : (text.isEmpty && !(Text.trimmed s.spec.orig).isEmpty) = false := by
    simpa using empty
  rw [filled, if_neg Bool.false_ne_true, if_neg long]
  cases hsplice : splice s.source s.spec.location text with
  | none => simp [← fits, hsplice]
  | some spliced => simp [← fits, hsplice, empty, long]

theorem accepts_eq_true_iff (text : String) : s.accepts text = true ↔ ¬ s.Refuses text := by
  rw [← accepts_eq_false_iff, Bool.not_eq_false]

/-- The classes exclude one another and leave none out. -/
theorem classOf_spec (seen : List String) (text : String) :
    (s.classOf seen text = .invalid ↔ s.Refuses text) ∧
      (s.classOf seen text = .identical ↔
        ¬ s.Refuses text ∧ text = Text.trimmed s.spec.orig) ∧
      (s.classOf seen text = .duplicate ↔
        ¬ s.Refuses text ∧ text ≠ Text.trimmed s.spec.orig ∧ text ∈ seen) ∧
      (s.classOf seen text = .valid ↔
        ¬ s.Refuses text ∧ text ≠ Text.trimmed s.spec.orig ∧ text ∉ seen) := by
  rw [← accepts_eq_true_iff, ← accepts_eq_false_iff]
  unfold classOf
  cases s.accepts text with
  | false => simp
  | true =>
      by_cases same : text = Text.trimmed s.spec.orig
      · simp [same]
      · by_cases repeated : text ∈ seen <;> simp [same, repeated]

theorem classOf_eq_valid {seen : List String} {replacement : String}
    (h : s.classOf seen replacement = .valid) :
    s.accepts replacement = true ∧ replacement ≠ Text.trimmed s.spec.orig ∧ replacement ∉ seen := by
  rw [accepts_eq_true_iff]
  exact (classOf_spec seen replacement).2.2.2.1 h

theorem classify_fst (seen : List String) (proposal : String) :
    (s.classify seen proposal).1 =
      s.candidate (Text.trimmed proposal) (s.classOf seen (Text.trimmed proposal)) := by
  simp only [classify]

theorem vets_classify (seen : List String) (proposal : String) :
    s.Vets (s.classify seen proposal).1 := by
  rw [classify_fst]
  refine ⟨rfl, rfl, Text.trimmed_trimmed proposal, ?_, ?_⟩
  · intro valid
    simp only [candidate] at valid ⊢
    exact (classOf_eq_valid valid).1
  · -- a trimmed text that is the fragment is the trimmed fragment as well
    intro valid same
    simp only [candidate] at valid same
    refine (classOf_eq_valid valid).2.1 ?_
    rw [← same, Text.trimmed_trimmed]

theorem vets_malformed (completion : String) : s.Vets (s.malformed completion) where
  location := rfl
  original := rfl
  trimmed := Text.trimmed_trimmed completion
  accepted := by simp [malformed, candidate]
  changed := by simp [malformed, candidate]

/-- A valid candidate adds its replacement to those seen, and no other candidate does. -/
theorem classify_seen (seen : List String) (proposal : String) :
    (s.classify seen proposal).2 =
      seen ++ validTexts [(s.classify seen proposal).1] := by
  by_cases h : s.classOf seen (Text.trimmed proposal) = .valid <;>
    simp [classify, candidate, validTexts_singleton, h]

/-- No replacement is seen twice. -/
theorem nodup_classify {seen : List String} (h : seen.Nodup) (proposal : String) :
    (s.classify seen proposal).2.Nodup := by
  by_cases valid : s.classOf seen (Text.trimmed proposal) = .valid
  · have fresh := (classOf_eq_valid valid).2.2
    simp only [classify, valid, if_true]
    exact List.nodup_append.2 ⟨h, by simp, by
      rintro a ha b hb rfl
      exact fresh (List.mem_singleton.1 hb ▸ ha)⟩
  · simpa [classify, valid] using h

theorem classifyAll_cons (seen : List String) (proposal : String) (proposals : List String) :
    s.classifyAll seen (proposal :: proposals) =
      ((s.classify seen proposal).1 ::
          (s.classifyAll (s.classify seen proposal).2 proposals).1,
        (s.classifyAll (s.classify seen proposal).2 proposals).2) := by
  rcases first : s.classify seen proposal with ⟨c, seen₁⟩
  rcases others : s.classifyAll seen₁ proposals with ⟨cs, seen₂⟩
  simp [classifyAll, first, others]

/-- What classifying proposals in turn comes to. -/
theorem classifyAll_spec {seen : List String} (h : seen.Nodup) (proposals : List String) :
    (∀ c ∈ (s.classifyAll seen proposals).1, s.Vets c) ∧
      (s.classifyAll seen proposals).2 =
        seen ++ validTexts (s.classifyAll seen proposals).1 ∧
      (s.classifyAll seen proposals).2.Nodup := by
  induction proposals generalizing seen with
  | nil => simpa [classifyAll] using h
  | cons proposal proposals ih =>
      obtain ⟨vets, seen_eq, nodup⟩ := ih (nodup_classify h proposal)
      rw [classifyAll_cons]
      refine ⟨?_, ?_, nodup⟩
      · intro c hc
        obtain rfl | hc := List.mem_cons.1 hc
        · exact vets_classify seen proposal
        · exact vets c hc
      · rw [validTexts_cons _ (s.classifyAll _ _).1, ← List.append_assoc, ← classify_seen]
        exact seen_eq

theorem ofCompletion_spec {seen : List String} (h : seen.Nodup) (completion : String) :
    (∀ c ∈ (s.ofCompletion seen completion).1, s.Vets c) ∧
      (s.ofCompletion seen completion).2 =
        seen ++ validTexts (s.ofCompletion seen completion).1 ∧
      (s.ofCompletion seen completion).2.Nodup := by
  unfold ofCompletion
  split
  next fragments _ => exact classifyAll_spec h fragments
  next =>
    refine ⟨?_, ?_, h⟩
    · intro c hc
      obtain rfl := List.mem_singleton.1 hc
      exact vets_malformed completion
    · simp [validTexts_singleton, malformed, candidate]

/-- Every candidate of an answer is vetted by the site. -/
theorem vets_of_mem_ofCompletions {seen : List String} (h : seen.Nodup) {completions : List String}
    {c : Candidate} (hc : c ∈ s.ofCompletions seen completions) : s.Vets c := by
  induction completions generalizing seen with
  | nil => simp [ofCompletions] at hc
  | cons completion more ih =>
      obtain ⟨vets, -, nodup⟩ := ofCompletion_spec h completion
      obtain hc | hc := List.mem_append.1 hc
      · exact vets c hc
      · exact ih nodup hc

/-- The valid candidates of an answer have replacements that are new, each once. -/
theorem nodup_ofCompletions {seen : List String} (h : seen.Nodup) (completions : List String) :
    (seen ++ validTexts (s.ofCompletions seen completions)).Nodup := by
  induction completions generalizing seen with
  | nil => simpa [ofCompletions] using h
  | cons completion more ih =>
      obtain ⟨-, seen_eq, nodup⟩ := ofCompletion_spec (s := s) h completion
      have := ih nodup
      rw [seen_eq, List.append_assoc, ← validTexts_append, ← seen_eq] at this
      exact this

end Site

end Mutagenesis
