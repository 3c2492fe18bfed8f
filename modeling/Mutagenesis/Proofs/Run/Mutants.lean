import Mutagenesis.Proofs.Mutant.Candidates
import Mutagenesis.Proofs.Package
import Mutagenesis.Proofs.Run.Progress

/-!
# The mutants of a run

Every mutant of a run over the files of a package is a real change of its file: it names the text
that stands in the file, the filters let that text pass, and with its replacement the file still
parses and is another one. No change is made twice in a run, since no two prompts ask about the
same location and the valid candidates of one answer are distinct.
-/
namespace Mutagenesis

open Files (World)

/-- A change of a file that a run may hand on. -/
structure Mutant.IsGenuine (c : Config) (file : SourceFile) (m : Mutant) : Prop where
  path : m.file = file.path
  original : fragment file.text m.location = some m.originalCode
  passesText : ∀ needle, c.mutateOnly = some needle → needle.toList <:+: m.originalCode.toList
  passesLines : ∀ lines, c.mutateOnlyLines = some lines →
    ∃ line ∈ lines, m.startLine ≤ line ∧ line ≤ m.endLine
  trimmed : Text.trimmed m.replacement = m.replacement
  short : (Text.lines m.replacement.toList).length ≤ c.maxLinesInPlaceholder
  empty : m.replacement = "" → Text.trimmed m.originalCode = ""
  changes : ∃ changed, splice file.text m.location m.replacement = some changed ∧
    file.language.isValid changed = true ∧ changed ≠ file.text

/-- What a site accepts is short, empty only in place of blanks, and leaves the source valid. -/
theorem Site.accepts_eq_true {s : Site} {replacement : String} (h : s.accepts replacement = true) :
    (replacement = "" → Text.trimmed s.spec.orig = "") ∧
      (Text.lines replacement.toList).length ≤ s.maxLines ∧
      ∃ changed, splice s.source s.spec.location replacement = some changed ∧
        s.language.isValid changed = true := by
  rw [accepts_eq_true_iff] at h
  simp only [Refuses, not_or, not_and, not_not, not_exists, Bool.not_eq_false, Nat.not_lt] at h
  obtain ⟨empty, short, fits, parses⟩ := h
  rw [← isSome_splice s.source s.spec.location replacement] at fits
  obtain ⟨changed, hsplice⟩ := Option.isSome_iff_exists.1 fits
  rw [← Text.length_lines] at short
  exact ⟨empty, short, changed, hsplice, parses changed hsplice⟩

/-- A specification that is not skipped holds the text asked for and covers a line asked for. -/
theorem PromptSpec.passes_of_not_isSkipped {spec : PromptSpec} {c : Config}
    (h : spec.isSkipped c = false) :
    (∀ needle, c.mutateOnly = some needle → needle.toList <:+: spec.orig.toList) ∧
      ∀ lines, c.mutateOnlyLines = some lines →
        ∃ line ∈ lines, spec.location.startLine ≤ line ∧ line ≤ spec.location.endLine := by
  simp only [isSkipped, Bool.not_eq_false', Bool.and_eq_true] at h
  obtain ⟨text, onLines⟩ := h
  constructor
  · intro needle hneedle
    simpa [passesText, hneedle, Text.occurs_iff] using text
  · intro lines hlines
    simpa [passesLines, hlines, Location.containsLine] using onLines

namespace Job

variable {σ : Type} {j : Job} {m : Model σ}

/-- The turns of a run are for specifications of its list, in order and none of them twice. -/
theorem Visits.sublist {specs : List (SourceFile × PromptSpec)} {p p' : Progress}
    {s s' : World × σ} {ts : List Turn} (way : Visits j m specs p s ts p' s') :
    (ts.map fun t => (t.file, t.prompt.spec)).Sublist specs := by
  induction way with
  | done => exact List.Sublist.slnil
  | full => exact List.nil_sublist _
  | unfit _ _ _ ih => exact ih.cons _
  | filtered _ _ _ _ ih => exact ih.cons _
  | asked _ _ _ _ _ _ ih => exact ih.cons_cons _

theorem Visits.not_isSkipped {specs : List (SourceFile × PromptSpec)} {p p' : Progress}
    {s s' : World × σ} {ts : List Turn} (way : Visits j m specs p s ts p' s') :
    ∀ t ∈ ts, t.prompt.spec.isSkipped j.config = false := by
  induction way with
  | done => simp
  | full => simp
  | unfit _ _ _ ih => exact ih
  | filtered _ _ _ _ ih => exact ih
  | asked _ _ kept _ _ _ ih =>
      intro t ht
      obtain rfl | ht := List.mem_cons.1 ht
      · exact kept
      · exact ih t ht

/-- The mutants of a run are those of its turns, in order. -/
theorem Visits.mutants_eq {specs : List (SourceFile × PromptSpec)} {p p' : Progress}
    {s s' : World × σ} {ts : List Turn} (way : Visits j m specs p s ts p' s') :
    p'.mutants = p.mutants ++ ts.flatMap j.mutantsOf := by
  induction way with
  | done => simp
  | full => simp
  | unfit _ _ _ ih => exact ih
  | filtered _ _ _ _ ih => exact ih
  | asked _ _ _ _ _ _ ih => simp [ih, mutants_after]

/-- A mutant of a turn comes from a valid candidate of the prompt's site. -/
theorem mem_mutantsOf {t : Turn} {mutant : Mutant} (h : mutant ∈ j.mutantsOf t) :
    ∃ c, (j.site t.file t.prompt.spec).Vets c ∧ c.classification = .valid ∧
      mutant = .ofCandidate c t.prompt.id := by
  obtain ⟨file, prompt, failure | answer, w, w'⟩ := t
  · simp [mutantsOf] at h
  · obtain ⟨c, hc, rfl⟩ := List.mem_map.1 h
    obtain ⟨hmem, valid⟩ := mem_validOf.1 hc
    exact ⟨c, Site.vets_of_mem_ofCompletions List.nodup_nil hmem, valid, rfl⟩

/-- No turn gives the same replacement twice. -/
theorem nodup_mutantsOf (j : Job) (t : Turn) : ((j.mutantsOf t).map (·.replacement)).Nodup := by
  obtain ⟨file, prompt, failure | answer, w, w'⟩ := t
  · exact List.nodup_nil
  · have := Site.nodup_ofCompletions (s := j.site file prompt.spec) List.nodup_nil
      answer.completions
    rw [List.nil_append] at this
    simpa [mutantsOf, Mutant.ofCandidate, validTexts, validOf, Function.comp_def] using this

theorem location_of_mem_mutantsOf {t : Turn} {mutant : Mutant} (h : mutant ∈ j.mutantsOf t) :
    mutant.location = t.prompt.spec.location := by
  obtain ⟨c, vets, -, rfl⟩ := mem_mutantsOf h
  exact vets.location

/-- A mutant of a turn for a discovered specification is genuine. -/
theorem isGenuine_of_mem_mutantsOf {t : Turn} {mutant : Mutant} {maxLines : Nat}
    (found : t.prompt.spec ∈ discover t.file.path t.file.text t.file.language maxLines)
    (kept : t.prompt.spec.isSkipped j.config = false) (h : mutant ∈ j.mutantsOf t) :
    mutant.IsGenuine j.config t.file := by
  obtain ⟨c, vets, valid, rfl⟩ := mem_mutantsOf h
  have hlocation : (Mutant.ofCandidate c t.prompt.id).location = t.prompt.spec.location :=
    vets.location
  have horiginal : (Mutant.ofCandidate c t.prompt.id).originalCode = t.prompt.spec.orig :=
    vets.original
  obtain ⟨empty, short, changed, hsplice, parses⟩ := Site.accepts_eq_true (vets.accepted valid)
  have fits : t.prompt.spec.location.fits t.file.text = true := by
    rw [← isSome_splice t.file.text t.prompt.spec.location c.replacement]
    exact Option.isSome_of_eq_some hsplice
  have hfragment := fragment_of_mem_discover found fits
  obtain ⟨passesText, passesLines⟩ := PromptSpec.passes_of_not_isSkipped kept
  exact
    { path := (congrArg Location.file hlocation).trans (file_of_mem_discover found)
      original := by rw [hlocation, horiginal, hfragment]
      passesText := by rwa [horiginal]
      passesLines := by
        intro lines hlines
        obtain ⟨line, hline, hstart, hstop⟩ := passesLines lines hlines
        exact ⟨line, hline, by rwa [← hlocation] at hstart, by rwa [← hlocation] at hstop⟩
      trimmed := vets.trimmed
      short := short
      empty := by rw [horiginal]; exact empty
      changes := by
        refine ⟨changed, by rw [hlocation]; exact hsplice, parses, ?_⟩
        exact splice_ne_source hsplice hfragment (vets.changed valid) }

end Job

/-- No location is asked about twice in the files of a package. -/
theorem nodup_specsOf {files : List SourceFile} {maxLines : Nat}
    (paths : (files.map (·.path)).Nodup)
    (found : ∀ file ∈ files, file.specs = discover file.path file.text file.language maxLines) :
    ((Job.specsOf files).map (·.2.location)).Nodup := by
  rw [Job.specsOf, List.map_flatMap, List.nodup_flatMap]
  constructor
  · intro file hfile
    rw [found file hfile, List.map_map]
    exact nodup_discover file.path file.text file.language maxLines
  · refine (List.pairwise_map.1 paths).imp_of_mem ?_
    intro file file' hfile hfile' differ location h h'
    apply differ
    have path_eq : ∀ {f : SourceFile}, f ∈ files →
        location ∈ (f.specs.map fun spec => (f, spec)).map (·.2.location) →
        location.file = f.path := by
      intro f hf hlocation
      rw [List.map_map, found f hf] at hlocation
      obtain ⟨spec, hspec, rfl⟩ := List.mem_map.1 hlocation
      exact file_of_mem_discover hspec
    rw [← path_eq hfile h, path_eq hfile' h']

namespace Job

variable {σ : Type} {j : Job} {m : Model σ}

/-- Every mutant of a run over the files of a package is genuine, and no two of them are the same
change. -/
theorem generate_mutants_isGenuine {w : World} (tree : w.IsTree) {root : Path} {c : Config}
    {files : List SourceFile} (loaded : Package.load w root c = .ok files) {s s' : World × σ}
    {r : RunResult} (h : j.generate m files s = (.ok r, s')) :
    (∀ mutant ∈ r.mutants, ∃ file ∈ files, mutant.IsGenuine j.config file) ∧
      (r.mutants.map fun mutant => (mutant.location, mutant.replacement)).Nodup := by
  obtain ⟨paths, found⟩ := Package.load_eq_ok tree loaded
  obtain ⟨_, p, _, _, -, way, rfl, -, -⟩ := generate_eq_ok h
  have mutants : p.mutants = (j.turns m files s).flatMap j.mutantsOf := by
    rw [way.mutants_eq, Progress.start, List.nil_append]
  simp only [mutants]
  constructor
  · intro mutant hmutant
    obtain ⟨t, ht, hmem⟩ := List.mem_flatMap.1 hmutant
    obtain ⟨file, hfile, hspec⟩ := List.mem_flatMap.1
      (way.sublist.subset (List.mem_map.2 ⟨t, ht, rfl⟩))
    obtain ⟨spec, hspec, heq⟩ := List.mem_map.1 hspec
    simp only [Prod.mk.injEq] at heq
    obtain ⟨rfl, rfl⟩ := heq
    rw [found _ hfile] at hspec
    exact ⟨t.file, hfile, isGenuine_of_mem_mutantsOf hspec (way.not_isSkipped t ht) hmem⟩
  · rw [List.map_flatMap, List.nodup_flatMap]
    constructor
    · intro t _
      refine List.Nodup.of_map Prod.snd ?_
      rw [List.map_map]
      exact nodup_mutantsOf j t
    · have locations : ((j.turns m files s).map (·.prompt.spec.location)).Nodup := by
        have := (way.sublist.map (·.2.location)).nodup (nodup_specsOf paths found)
        rwa [List.map_map] at this
      refine (List.pairwise_map.1 locations).imp ?_
      intro t t' differ key hkey hkey'
      obtain ⟨mutant, hmem, rfl⟩ := List.mem_map.1 hkey
      obtain ⟨mutant', hmem', heq⟩ := List.mem_map.1 hkey'
      apply differ
      rw [← location_of_mem_mutantsOf hmem, ← location_of_mem_mutantsOf hmem']
      exact (congrArg Prod.fst heq).symm

/-- Of four fragments proposed for a condition, the one that equals it and the one that repeats
another are left out, and the other two are genuine. -/
theorem isGenuine_of_scripted_condition :
    let w : World := ⟨[([Text.bytes "a.py"], .file (Text.bytes "if x:\n  pass\n"))], []⟩
    let c : Config := { Config.standard with mutate := "*.py", mutateOnly := some "x" }
    let file : SourceFile := ⟨"a.py", .python, "if x:\n  pass\n",
      [⟨.between "a.py" (1, 3) (1, 4), "x", "if condition"⟩]⟩
    let j : Job := ⟨c, "\x7b\x7borig\x7d\x7d", .none, none⟩
    let answer : Answer := ⟨["\x60\x60\x60\ny\n\x60\x60\x60\n\x60\x60\x60\n  x\n\x60\x60\x60",
      "\x60\x60\x60\nnot x\n\x60\x60\x60\n\x60\x60\x60\n y \n\x60\x60\x60"], .zero⟩
    ∃ r s', j.generate (Model.scripted ⟨"m", .zero, 1, ""⟩) [file] (w, [.ok answer]) = (.ok r, s') ∧
      r.mutants.map (·.replacement) = ["y", "not x"] ∧
      (∀ mutant ∈ r.mutants, mutant.IsGenuine c file) ∧
      (r.mutants.map fun mutant => (mutant.location, mutant.replacement)).Nodup := by
  intro w c file j answer
  have tree : w.IsTree := by
    constructor <;> decide +kernel
  have loaded : Package.load w (.ofString "/") c = .ok [file] :=
    eq_ok_of_toOption (by decide +kernel)
  obtain ⟨r, s', h⟩ : ∃ r s', j.generate (Model.scripted ⟨"m", .zero, 1, ""⟩) [file]
      (w, [.ok answer]) = (.ok r, s') := exists_generate_eq (by decide +kernel)
  obtain ⟨genuine, nodup⟩ := generate_mutants_isGenuine tree loaded h
  have replacements : ((j.generate (Model.scripted ⟨"m", .zero, 1, ""⟩) [file]
      (w, [.ok answer])).1.toOption.map fun r => r.mutants.map (·.replacement)) =
      some ["y", "not x"] := by
    decide +kernel
  refine ⟨r, s', h, ?_, ?_, nodup⟩
  · rw [h] at replacements
    exact Option.some.inj replacements
  · intro mutant hmutant
    obtain ⟨file', hfile, hgenuine⟩ := genuine mutant hmutant
    obtain rfl := List.mem_singleton.1 hfile
    exact hgenuine

end Job

end Mutagenesis
