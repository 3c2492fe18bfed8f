import Mutagenesis.Run.Generate

/-!
# The turns of a run

A turn is one prompt that a run sends and what came of it. `Job.turns` lists the turns of a run from
the steps that the run takes, and a model that writes down all it is asked and all it says has
written down these turns and nothing else. `Visits` is the run itself with its turns, one case for
each thing that may become of a specification, and what holds of every run is proved by induction
on it.
-/
namespace Mutagenesis

open Files (World)

/-- A prompt that was sent for a file and what came of it, with the files before and after. -/
structure Turn where
  file : SourceFile
  prompt : Prompt
  outcome : Except Failure Answer
  before : World
  after : World

/-- A query of a model and what the model says, with the files before and after. -/
structure Said where
  text : String
  options : Options
  outcome : Except Failure Answer
  before : World
  after : World

/-- The model that writes down all it is asked and all it says. -/
def Model.watched {σ : Type} (m : Model σ) : Model (σ × List Said) where
  profile := m.profile
  query text options s :=
    let (outcome, w, inner) := m.query text options (s.1, s.2.1)
    (outcome, w, inner, s.2.2 ++ [⟨text, options, outcome, s.1, w⟩])
  counter s := m.counter s.1

theorem Model.query_watched {σ : Type} (m : Model σ) (text : String) (options : Options) (w : World)
    (s : σ) (log : List Said) :
    m.watched.query text options (w, s, log) =
      match m.query text options (w, s) with
      | (outcome, w', s') => (outcome, w', s', log ++ [⟨text, options, outcome, w, w'⟩]) := rfl

/-- The model that gives the replies of a list in turn, and fails when there are none left. -/
def Model.scripted (profile : Profile) : Model (List (Except Failure Answer)) where
  profile := profile
  query _ _ s :=
    match s.2 with
    | [] => (.error (.transport "script exhausted"), s)
    | reply :: replies => (reply, s.1, replies)
  counter _ := .zero

theorem Model.scripted_quiet (profile : Profile) (text : String) (options : Options)
    (s : World × List (Except Failure Answer)) :
    ((Model.scripted profile).query text options s).2.1 = s.1 := by
  simp only [Model.scripted]
  split <;> rfl

/-- The progress after a prompt has been made: its number is taken. -/
def Progress.number (p : Progress) : Progress := { p with prompts := ⟨p.prompts.nextId + 1⟩ }

namespace Job

variable {σ : Type}

/-- Where the proposals for a specification are tried. -/
def site (j : Job) (file : SourceFile) (spec : PromptSpec) : Site :=
  ⟨file.language, file.text, spec, j.config.maxLinesInPlaceholder⟩

/-- The progress after a turn. -/
def after (j : Job) (p : Progress) (t : Turn) : Progress :=
  p.number.send.take (j.site t.file t.prompt.spec) t.prompt.id t.outcome

/-- The turn that a visit takes, if it sends a prompt. -/
def turn? (j : Job) (m : Model σ) (file : SourceFile) (spec : PromptSpec) (p : Progress)
    (s : World × σ) : Option Turn :=
  match j.prompt? file spec p.prompts with
  | none => none
  | some (prompt, _) =>
      if spec.isSkipped j.config then none
      else
        let (outcome, w, _) := m.query prompt.text j.options s
        some ⟨file, prompt, outcome, s.1, w⟩

/-- The turns taken on the way through specifications. -/
def turnsFrom (j : Job) (m : Model σ) :
    List (SourceFile × PromptSpec) → Progress → World × σ → List Turn
  | [], _, _ => []
  | (file, spec) :: more, p, s =>
      if j.isFull p then []
      else (j.turn? m file spec p s).toList ++
        match j.visit m file spec p s with
        | (.error _, _) => []
        | (.ok p, s) => turnsFrom j m more p s

/-- The turns of a run over files. -/
def turns (j : Job) (m : Model σ) (files : List SourceFile) (s : World × σ) : List Turn :=
  match j.clear s.1 with
  | (.error _, _) => []
  | (.ok (), w) => j.turnsFrom m (specsOf files) (.start j.config) (w, s.2)

/-- Whether a specification gets a prompt when its turn comes. -/
def asks (j : Job) (x : SourceFile × PromptSpec) : Bool :=
  (x.2.codeWithPlaceholder x.1.text).isSome && !x.2.isSkipped j.config

/-- The way of a run through specifications: where it starts, the turns it takes and where it
ends. -/
inductive Visits (j : Job) (m : Model σ) :
    List (SourceFile × PromptSpec) → Progress → World × σ → List Turn → Progress → World × σ → Prop
  | done {p s} : Visits j m [] p s [] p s
  | full {x more p s} (full : j.isFull p = true) : Visits j m (x :: more) p s [] p s
  | unfit {file spec more p s ts p' s'} (room : j.isFull p = false)
      (unfit : spec.codeWithPlaceholder file.text = none)
      (rest : Visits j m more p.skip s ts p' s') : Visits j m ((file, spec) :: more) p s ts p' s'
  | filtered {file spec more p s ts p' s' code} (room : j.isFull p = false)
      (fits : spec.codeWithPlaceholder file.text = some code)
      (skipped : spec.isSkipped j.config = true)
      (rest : Visits j m more p.number.skip s ts p' s') :
      Visits j m ((file, spec) :: more) p s ts p' s'
  | asked {file spec more p s ts p' s' code outcome s₁ w₂} (room : j.isFull p = false)
      (fits : spec.codeWithPlaceholder file.text = some code)
      (kept : spec.isSkipped j.config = false)
      (answer : m.query (render j.template code spec) j.options s = (outcome, s₁))
      (saved : j.save ⟨p.prompts.nextId, render j.template code spec, spec⟩ outcome s₁.1 =
        (.ok (), w₂))
      (rest : Visits j m more
        (j.after p
          ⟨file, ⟨p.prompts.nextId, render j.template code spec, spec⟩, outcome, s.1, s₁.1⟩)
        (w₂, s₁.2) ts p' s') :
      Visits j m ((file, spec) :: more) p s
        (⟨file, ⟨p.prompts.nextId, render j.template code spec, spec⟩, outcome, s.1, s₁.1⟩ :: ts)
        p' s'

variable {j : Job} {m : Model σ}

theorem prompt?_of_none {file : SourceFile} {spec : PromptSpec} {s : PromptSequence}
    (h : spec.codeWithPlaceholder file.text = none) : j.prompt? file spec s = none := by
  simp [prompt?, h]

theorem prompt?_of_some {file : SourceFile} {spec : PromptSpec} {s : PromptSequence}
    {code : String} (h : spec.codeWithPlaceholder file.text = some code) :
    j.prompt? file spec s =
      some (⟨s.nextId, render j.template code spec, spec⟩, ⟨s.nextId + 1⟩) := by
  simp [prompt?, h, PromptSequence.create]

/-- A visit that sends no prompt counts a skipped specification and changes nothing else. -/
theorem visit_of_none {file : SourceFile} {spec : PromptSpec} {p : Progress} {s : World × σ}
    (h : spec.codeWithPlaceholder file.text = none) :
    j.visit m file spec p s = (.ok p.skip, s) := by
  simp [visit, prompt?_of_none h]

theorem visit_of_isSkipped {file : SourceFile} {spec : PromptSpec} {p : Progress} {s : World × σ}
    {code : String} (h : spec.codeWithPlaceholder file.text = some code)
    (skipped : spec.isSkipped j.config = true) :
    j.visit m file spec p s = (.ok p.number.skip, s) := by
  simp [visit, prompt?_of_some h, skipped, Progress.number]

/-- A visit that sends a prompt asks the model, records what it says and takes it in. -/
theorem visit_of_asks {file : SourceFile} {spec : PromptSpec} {p : Progress} {s : World × σ}
    {code : String} (h : spec.codeWithPlaceholder file.text = some code)
    (kept : spec.isSkipped j.config = false) :
    let prompt : Prompt := ⟨p.prompts.nextId, render j.template code spec, spec⟩
    j.visit m file spec p s =
      match m.query prompt.text j.options s with
      | (outcome, w₁, s₁) =>
          match j.save prompt outcome w₁ with
          | (.error fault, w) => (.error fault, w, s₁)
          | (.ok (), w) => (.ok (j.after p ⟨file, prompt, outcome, s.1, w₁⟩), w, s₁) := by
  simp only [visit, prompt?_of_some h, kept]
  rfl

/-- The way through specifications is the visit of the first, and from there the way through the
rest. -/
theorem visitAll_cons (file : SourceFile) (spec : PromptSpec)
    (more : List (SourceFile × PromptSpec)) (p : Progress) (s : World × σ) :
    j.visitAll m ((file, spec) :: more) p s =
      if j.isFull p then (.ok p, s)
      else match j.visit m file spec p s with
        | (.error fault, s) => (.error fault, s)
        | (.ok p, s) => j.visitAll m more p s := rfl

theorem turnsFrom_cons (file : SourceFile) (spec : PromptSpec)
    (more : List (SourceFile × PromptSpec)) (p : Progress) (s : World × σ) :
    j.turnsFrom m ((file, spec) :: more) p s =
      if j.isFull p then []
      else (j.turn? m file spec p s).toList ++
        match j.visit m file spec p s with
        | (.error _, _) => []
        | (.ok p, s) => j.turnsFrom m more p s := rfl

/-! ### How far one visit takes a run -/

section Visit

variable {file : SourceFile} {spec : PromptSpec} {more : List (SourceFile × PromptSpec)}
  {p : Progress} {s s₁ : World × σ} {code : String} {outcome : Except Failure Answer} {w₂ : World}

theorem visitAll_of_isFull (full : j.isFull p = true) (x : SourceFile × PromptSpec) :
    j.visitAll m (x :: more) p s = (.ok p, s) ∧ j.turnsFrom m (x :: more) p s = [] := by
  obtain ⟨file, spec⟩ := x
  simp [visitAll_cons, turnsFrom_cons, full]

theorem visitAll_of_none (room : j.isFull p = false)
    (unfit : spec.codeWithPlaceholder file.text = none) :
    j.visitAll m ((file, spec) :: more) p s = j.visitAll m more p.skip s ∧
      j.turnsFrom m ((file, spec) :: more) p s = j.turnsFrom m more p.skip s := by
  simp [visitAll_cons, turnsFrom_cons, turn?, room, visit_of_none unfit, prompt?_of_none unfit]

theorem visitAll_of_isSkipped (room : j.isFull p = false)
    (fits : spec.codeWithPlaceholder file.text = some code)
    (skipped : spec.isSkipped j.config = true) :
    j.visitAll m ((file, spec) :: more) p s = j.visitAll m more p.number.skip s ∧
      j.turnsFrom m ((file, spec) :: more) p s = j.turnsFrom m more p.number.skip s := by
  simp [visitAll_cons, turnsFrom_cons, turn?, room, visit_of_isSkipped fits skipped,
    prompt?_of_some fits, skipped]

variable (room : j.isFull p = false) (fits : spec.codeWithPlaceholder file.text = some code)
  (kept : spec.isSkipped j.config = false)
  (answer : m.query (render j.template code spec) j.options s = (outcome, s₁))
include room fits kept answer

/-- A prompt that is recorded takes a run one turn further. -/
theorem visitAll_of_asks
    (saved : j.save ⟨p.prompts.nextId, render j.template code spec, spec⟩ outcome s₁.1 =
      (.ok (), w₂)) :
    j.visitAll m ((file, spec) :: more) p s = j.visitAll m more
        (j.after p
          ⟨file, ⟨p.prompts.nextId, render j.template code spec, spec⟩, outcome, s.1, s₁.1⟩)
        (w₂, s₁.2) ∧
      j.turnsFrom m ((file, spec) :: more) p s =
        ⟨file, ⟨p.prompts.nextId, render j.template code spec, spec⟩, outcome, s.1, s₁.1⟩ ::
          j.turnsFrom m more
            (j.after p
              ⟨file, ⟨p.prompts.nextId, render j.template code spec, spec⟩, outcome, s.1, s₁.1⟩)
            (w₂, s₁.2) := by
  simp [visitAll_cons, turnsFrom_cons, turn?, room, visit_of_asks fits kept,
    prompt?_of_some fits, kept, answer, saved]

/-- A prompt that cannot be recorded is the last turn of a run. -/
theorem visitAll_of_unsaved {fault : ArtifactFault}
    (unsaved : j.save ⟨p.prompts.nextId, render j.template code spec, spec⟩ outcome s₁.1 =
      (.error fault, w₂)) :
    j.visitAll m ((file, spec) :: more) p s = (.error fault, w₂, s₁.2) ∧
      j.turnsFrom m ((file, spec) :: more) p s =
        [⟨file, ⟨p.prompts.nextId, render j.template code spec, spec⟩, outcome, s.1, s₁.1⟩] := by
  simp [visitAll_cons, turnsFrom_cons, turn?, room, visit_of_asks fits kept,
    prompt?_of_some fits, kept, answer, unsaved]

end Visit

/-- A run that meets no fault goes its way and takes its turns. -/
theorem visits_of_visitAll {specs : List (SourceFile × PromptSpec)} {p p' : Progress}
    {s s' : World × σ} (h : j.visitAll m specs p s = (.ok p', s')) :
    Visits j m specs p s (j.turnsFrom m specs p s) p' s' := by
  induction specs generalizing p s with
  | nil =>
      simp only [visitAll, Prod.mk.injEq, Except.ok.injEq] at h
      obtain ⟨rfl, rfl⟩ := h
      exact .done
  | cons x more ih =>
      obtain ⟨file, spec⟩ := x
      cases room : j.isFull p with
      | true =>
          simp only [visitAll_of_isFull room, Prod.mk.injEq, Except.ok.injEq] at h ⊢
          obtain ⟨rfl, rfl⟩ := h
          exact .full room
      | false =>
          cases fits : spec.codeWithPlaceholder file.text with
          | none =>
              simp only [visitAll_of_none room fits] at h ⊢
              exact .unfit room fits (ih h)
          | some code =>
              cases kept : spec.isSkipped j.config with
              | true =>
                  simp only [visitAll_of_isSkipped room fits kept] at h ⊢
                  exact .filtered room fits kept (ih h)
              | false =>
                  rcases answer : m.query (render j.template code spec) j.options s with
                    ⟨outcome, s₁⟩
                  rcases saved : j.save
                    ⟨p.prompts.nextId, render j.template code spec, spec⟩ outcome s₁.1 with
                    ⟨fault | ⟨⟩, w₂⟩
                  · simp [visitAll_of_unsaved room fits kept answer saved] at h
                  · simp only [visitAll_of_asks room fits kept answer saved] at h ⊢
                    exact .asked room fits kept answer saved (ih h)

/-- What a watched model writes down in a turn. -/
def said (j : Job) (t : Turn) : Said := ⟨t.prompt.text, j.options, t.outcome, t.before, t.after⟩

/-- Watching a model changes nothing, and what it writes down are the turns. -/
theorem visitAll_watched (specs : List (SourceFile × PromptSpec)) (p : Progress) (w : World)
    (s : σ) (log : List Said) :
    j.visitAll m.watched specs p (w, s, log) =
      match j.visitAll m specs p (w, s) with
      | (outcome, w', s') =>
          (outcome, w', s', log ++ (j.turnsFrom m specs p (w, s)).map j.said) := by
  induction specs generalizing p w s log with
  | nil => simp [visitAll, turnsFrom]
  | cons x more ih =>
      obtain ⟨file, spec⟩ := x
      cases room : j.isFull p with
      | true => simp [visitAll_of_isFull room]
      | false =>
          cases fits : spec.codeWithPlaceholder file.text with
          | none => simp [visitAll_of_none room fits, ih]
          | some code =>
              cases kept : spec.isSkipped j.config with
              | true => simp [visitAll_of_isSkipped room fits kept, ih]
              | false =>
                  rcases answer : m.query (render j.template code spec) j.options (w, s) with
                    ⟨outcome, w₁, s₁⟩
                  have watched := m.query_watched (render j.template code spec) j.options w s log
                  rw [answer] at watched
                  rcases saved : j.save
                    ⟨p.prompts.nextId, render j.template code spec, spec⟩ outcome w₁ with
                    ⟨_ | ⟨⟩, w₂⟩
                  · simp [visitAll_of_unsaved room fits kept answer saved,
                      visitAll_of_unsaved room fits kept watched saved, said]
                  · simp [visitAll_of_asks room fits kept answer saved,
                      visitAll_of_asks room fits kept watched saved, said, ih]

theorem generate_watched (files : List SourceFile) (w : World) (s : σ) :
    j.generate m.watched files (w, s, []) =
      match j.generate m files (w, s) with
      | (outcome, w', s') => (outcome, w', s', (j.turns m files (w, s)).map j.said) := by
  rcases cleared : j.clear w with ⟨_ | ⟨⟩, w₁⟩
  · simp [generate, turns, cleared]
  · simp only [generate, turns, cleared, visitAll_watched, List.nil_append]
    rcases visited : j.visitAll m (specsOf files) (.start j.config) (w₁, s) with ⟨_ | p, w₂, s₂⟩
    · rfl
    · simp only [Model.watched]
      rcases j.saveResult ⟨p.summary.setFailures (m.counter s₂), p.mutants⟩ w₂ with ⟨_ | ⟨⟩, w₃⟩ <;>
        rfl

/-- All that the model is asked in a run over files, and all it says. -/
def log (j : Job) (m : Model σ) (files : List SourceFile) (s : World × σ) : List Said :=
  (j.generate m.watched files (s.1, s.2, [])).2.2.2

theorem log_eq_turns (files : List SourceFile) (s : World × σ) :
    j.log m files s = (j.turns m files s).map j.said := by
  rw [log, generate_watched]

/-- A run that comes to its end clears its folder, goes its way and saves what it comes to. -/
theorem generate_eq_ok {files : List SourceFile} {s s' : World × σ} {r : RunResult}
    (h : j.generate m files s = (.ok r, s')) :
    ∃ w₁ p w₂ s₂, j.clear s.1 = (.ok (), w₁) ∧
      Visits j m (specsOf files) (.start j.config) (w₁, s.2) (j.turns m files s) p (w₂, s₂) ∧
      r = ⟨p.summary.setFailures (m.counter s₂), p.mutants⟩ ∧
      j.saveResult r w₂ = (.ok (), s'.1) ∧ s'.2 = s₂ := by
  rcases cleared : j.clear s.1 with ⟨_ | ⟨⟩, w₁⟩
  · simp [generate, cleared] at h
  · simp only [generate, cleared] at h
    rcases visited : j.visitAll m (specsOf files) (.start j.config) (w₁, s.2) with ⟨_ | p, w₂, s₂⟩
    · simp [visited] at h
    · simp only [visited] at h
      rcases saved : j.saveResult ⟨p.summary.setFailures (m.counter s₂), p.mutants⟩ w₂ with
        ⟨_ | ⟨⟩, w₃⟩
      · simp [saved] at h
      · simp only [saved, Prod.mk.injEq, Except.ok.injEq] at h
        obtain ⟨rfl, rfl⟩ := h
        have way := visits_of_visitAll visited
        exact ⟨w₁, p, w₂, s₂, rfl, by simpa [turns, cleared] using way, rfl, saved, rfl⟩

theorem save_of_no_output (output : j.output = none) (prompt : Prompt)
    (outcome : Except Failure Answer) (w : World) : j.save prompt outcome w = (.ok (), w) := by
  simp [save, output]

/-- A run without an output folder ends with a result, whatever the model says. -/
theorem exists_visitAll_of_no_output (output : j.output = none)
    (specs : List (SourceFile × PromptSpec)) (p : Progress) (s : World × σ) :
    ∃ p' s', j.visitAll m specs p s = (.ok p', s') := by
  induction specs generalizing p s with
  | nil => exact ⟨p, s, rfl⟩
  | cons x more ih =>
      obtain ⟨file, spec⟩ := x
      cases room : j.isFull p with
      | true => exact ⟨p, s, (visitAll_of_isFull room _).1⟩
      | false =>
          cases fits : spec.codeWithPlaceholder file.text with
          | none => simpa only [visitAll_of_none room fits] using ih p.skip s
          | some code =>
              cases kept : spec.isSkipped j.config with
              | true => simpa only [visitAll_of_isSkipped room fits kept] using ih p.number.skip s
              | false =>
                  rcases answer : m.query (render j.template code spec) j.options s with
                    ⟨outcome, s₁⟩
                  rw [(visitAll_of_asks room fits kept answer
                    (save_of_no_output output _ outcome s₁.1)).1]
                  exact ih _ _

theorem exists_generate_of_no_output (output : j.output = none) (files : List SourceFile)
    (s : World × σ) : ∃ r s', j.generate m files s = (.ok r, s') := by
  obtain ⟨p, s', visited⟩ :=
    exists_visitAll_of_no_output (m := m) output (specsOf files) (.start j.config) (s.1, s.2)
  simp [generate, clear, output, visited, saveResult]

/-- A run ends with a result unless something could not be written. -/
theorem exists_generate_eq {files : List SourceFile} {s : World × σ}
    (h : (j.generate m files s).1.toOption.isSome = true) :
    ∃ r s', j.generate m files s = (.ok r, s') := by
  rcases result : j.generate m files s with ⟨_ | r, s'⟩
  · simp [result, Except.toOption] at h
  · exact ⟨r, s', rfl⟩

section Induction

variable {I : World × σ → Prop}
  (asked : ∀ {text s}, I s → I (m.query text j.options s).2)
  (saved : ∀ {prompt outcome w s}, I (w, s) → I ((j.save prompt outcome w).2, s))
include asked saved

/-- What queries and records keep, a visit keeps, whether it meets a fault or not. -/
theorem visit_induction {file : SourceFile} {spec : PromptSpec} {p : Progress} {s : World × σ}
    (h : I s) : I (j.visit m file spec p s).2 := by
  cases fits : spec.codeWithPlaceholder file.text with
  | none => rwa [visit_of_none fits]
  | some code =>
      cases kept : spec.isSkipped j.config with
      | true => rwa [visit_of_isSkipped fits kept]
      | false =>
          let prompt : Prompt := ⟨p.prompts.nextId, render j.template code spec, spec⟩
          have answered : I (m.query prompt.text j.options s).2 := asked h
          rw [visit_of_asks fits kept]
          rcases said : m.query prompt.text j.options s with ⟨outcome, w₁, s₁⟩
          rw [said] at answered
          have recorded : I ((j.save prompt outcome w₁).2, s₁) := saved answered
          rcases stored : j.save prompt outcome w₁ with ⟨_ | ⟨⟩, w₂⟩
          all_goals simpa [prompt, said, stored] using recorded

theorem visitAll_induction {specs : List (SourceFile × PromptSpec)} {p : Progress} {s : World × σ}
    (h : I s) : I (j.visitAll m specs p s).2 := by
  induction specs generalizing p s with
  | nil => exact h
  | cons x more ih =>
      obtain ⟨file, spec⟩ := x
      rw [visitAll_cons]
      split
      next => exact h
      next =>
        have visited : I (j.visit m file spec p s).2 := visit_induction asked saved h
        rcases stop : j.visit m file spec p s with ⟨_ | p₁, s₁⟩
        · simpa [stop] using visited
        · exact ih (by simpa [stop] using visited)

/-- What clearing, queries, records and the result keep, a whole run keeps. -/
theorem generate_induction (cleared : ∀ {w s}, I (w, s) → I ((j.clear w).2, s))
    (finished : ∀ {r w s}, I (w, s) → I ((j.saveResult r w).2, s)) {files : List SourceFile}
    {s : World × σ} (h : I s) : I (j.generate m files s).2 := by
  have started := cleared h
  rcases clears : j.clear s.1 with ⟨_ | ⟨⟩, w₁⟩
  · simpa [generate, clears] using started
  · rw [clears] at started
    have visited : I (j.visitAll m (specsOf files) (.start j.config) (w₁, s.2)).2 :=
      visitAll_induction asked saved started
    rcases stop : j.visitAll m (specsOf files) (.start j.config) (w₁, s.2) with ⟨_ | p, w₂, s₂⟩
    · simpa [generate, clears, stop] using visited
    · rw [stop] at visited
      have ended := finished (r := ⟨p.summary.setFailures (m.counter s₂), p.mutants⟩) visited
      rcases results : j.saveResult ⟨p.summary.setFailures (m.counter s₂), p.mutants⟩ w₂ with
        ⟨_ | ⟨⟩, w₃⟩
      all_goals simpa [generate, clears, stop, results] using ended

end Induction

end Job

end Mutagenesis
