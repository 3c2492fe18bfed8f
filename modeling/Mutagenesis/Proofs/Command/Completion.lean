import Mutagenesis.Proofs.Command.Options
import Mutagenesis.Proofs.Command.Replay
import Mutagenesis.Proofs.Run.Gaps
import Mutagenesis.Proofs.Run.Holding

/-!
# Whole runs or none

A command to generate mutants reads all that it needs before it changes anything. When it is refused
or its package cannot be read, everything is as it was; and when it succeeds, its output folder
holds mutants and a summary that load.
-/
namespace Mutagenesis

open Files (Route World)

namespace GenerateOrder

/-- Whether a run goes by a configuration: a live run by the one that is asked for, a replay by that
of the recorded run with the globs that are asked for. -/
inductive GoesBy (o : GenerateOrder) (w : World) : Config → Prop
  | live {c} (live : o.replay = none) (asked : o.fullConfig = .ok c) : GoesBy o w c
  | replayed {folder recording} (replay : o.replay = some folder)
      (loaded : Recording.load w folder = .ok recording) :
      GoesBy o w { recording.config with mutate := o.config.mutate, ignore := o.config.ignore }

/-- Why an order is refused. -/
inductive IsRefused (o : GenerateOrder) (env : List (String × String)) (w : World) : Prop
  | noPackage (missing : w.isFolder o.package = false)
  | ontoItself {folder} (replay : o.replay = some folder)
      (same : Command.sameFolder w folder o.outputFolder = true)
  | noRecording {folder fault} (replay : o.replay = some folder)
      (unloaded : Recording.load w folder = .error fault)
  | badLines {fault} (live : o.replay = none) (unread : o.fullConfig = .error fault)
  | badConfig {c fault} (goes : o.GoesBy w c) (invalid : c.validate = .error fault)
  | noTemplate {c fault} (goes : o.GoesBy w c) (unread : templateText w c.template = .error fault)
  | noSystemPrompt {c fault} (live : o.replay = none) (goes : o.GoesBy w c)
      (unread : templateText w c.systemPrompt = .error fault)
  | noEndpoint (live : o.replay = none) (unset : env.lookup endpointVariable = none)
  | badHeaders {fault} (live : o.replay = none) (unread : Command.headersOf env = .error fault)

variable {o : GenerateOrder} {w : World} {c c' : Config}

/-- A run goes by one configuration. -/
theorem GoesBy.unique (h : o.GoesBy w c) (h' : o.GoesBy w c') : c = c' := by
  cases h with
  | live live asked =>
      cases h' with
      | live _ asked' => exact Except.ok.inj (asked.symm.trans asked')
      | replayed replay => exact nomatch live.symm.trans replay
  | replayed replay loaded =>
      cases h' with
      | live live => exact nomatch live.symm.trans replay
      | replayed replay' loaded' =>
          obtain rfl := Option.some.inj (replay.symm.trans replay')
          rw [Except.ok.inj (loaded.symm.trans loaded')]

/-- The numbers fit of the configuration by which a run goes. -/
theorem GoesBy.numbersFit (fits : o.config.NumbersFit) (h : o.GoesBy w c) : c.NumbersFit := by
  cases h with
  | live _ asked => exact makes_fullConfig fits c asked
  | replayed _ loaded =>
      obtain ⟨s, -, summary, -, -, config⟩ := Artifacts.exists_of_load loaded
      have recorded := Recording.makes_readJson w _ RunSummary.makes_decoder s summary
      rw [config]
      exact { recorded with }

end GenerateOrder

namespace Command

variable {τ σ : Type} {o : GenerateOrder} {m : Model σ} {c : Config}

/-- What comes of a command that generates mutants with a model. -/
inductive Generates (o : GenerateOrder) (m : Model σ) (c : Config) (s : World × σ) :
    Ending → World × σ → Prop
  | noTemplate {ending fault} (unread : templateText s.1 c.template = .error fault)
      (code : ending.code = 2) : Generates o m c s ending s
  | noPackage {ending fault template} (found : templateText s.1 c.template = .ok template)
      (unread : Package.load s.1 o.package c = .error fault) (code : ending.code = 3)
      (told : ending.fault = some fault.message) :
      Generates o m c s ending s
  | unwritten {ending files template fault s'} (found : templateText s.1 c.template = .ok template)
      (read : Package.load s.1 o.package c = .ok files)
      (failed : (⟨c, template, o.queryOptions, some o.outputFolder⟩ : Job).generate m files s =
        (.error fault, s'))
      (code : ending.code = 3)
      (told : ending.fault = some ("Failed to write run output: " ++ fault.message)) :
      Generates o m c s ending s'
  | done {ending files template result s'} (found : templateText s.1 c.template = .ok template)
      (read : Package.load s.1 o.package c = .ok files)
      (made : (⟨c, template, o.queryOptions, some o.outputFolder⟩ : Job).generate m files s =
        (.ok result, s'))
      (code : ending.code = 0) : Generates o m c s ending s'

theorem generates_of_generateWith {said : List String} {s s' : World × σ} {ending : Ending}
    (h : generateWith o m c said s = (ending, s')) : Generates o m c s ending s' := by
  unfold generateWith at h
  split at h
  next unread =>
    obtain ⟨rfl, rfl⟩ := Prod.mk.inj h
    exact .noTemplate unread rfl
  next template found =>
    split at h
    next unread =>
      obtain ⟨rfl, rfl⟩ := Prod.mk.inj h
      exact .noPackage found unread rfl rfl
    next files read =>
      dsimp only at h
      split at h
      next failed =>
        obtain ⟨rfl, rfl⟩ := Prod.mk.inj h
        exact .unwritten found read failed rfl rfl
      next made =>
        obtain ⟨rfl, rfl⟩ := Prod.mk.inj h
        exact .done found read made rfl

/-- Whether an order stands up to all checks but that of its template. -/
structure Accepts (o : GenerateOrder) (env : List (String × String)) (w : World) (c : Config) :
    Prop where
  package : w.isFolder o.package = true
  distinct : ∀ folder, o.replay = some folder → sameFolder w folder o.outputFolder = false
  goes : o.GoesBy w c
  valid : c.validate = .ok ()
  live : o.replay = none → (∃ context, templateText w c.systemPrompt = .ok context) ∧
    (env.lookup endpointVariable).isSome = true ∧ ∃ headers, headersOf env = .ok headers

/-- An order that stands up to all checks is not refused. -/
theorem Accepts.not_isRefused {env : List (String × String)} {w : World} {template : String}
    (h : Accepts o env w c) (found : templateText w c.template = .ok template) :
    ¬ o.IsRefused env w := by
  intro refused
  cases refused with
  | noPackage missing => simp [h.package] at missing
  | ontoItself replay same => simp [h.distinct _ replay] at same
  | noRecording replay unloaded =>
      cases h.goes with
      | live live => simp [live] at replay
      | replayed replay' loaded =>
          obtain rfl := Option.some.inj (replay.symm.trans replay')
          exact nomatch unloaded.symm.trans loaded
  | badLines live unread =>
      cases h.goes with
      | live _ asked => exact nomatch unread.symm.trans asked
      | replayed replay => simp [live] at replay
  | badConfig goes invalid =>
      obtain rfl := goes.unique h.goes
      exact nomatch invalid.symm.trans h.valid
  | noTemplate goes unread =>
      obtain rfl := goes.unique h.goes
      exact nomatch unread.symm.trans found
  | noSystemPrompt live goes unread =>
      obtain rfl := goes.unique h.goes
      obtain ⟨⟨context, read⟩, -⟩ := h.live live
      exact nomatch unread.symm.trans read
  | noEndpoint live unset =>
      have set := (h.live live).2.1
      simp [unset] at set
  | badHeaders live unread =>
      obtain ⟨-, -, headers, read⟩ := h.live live
      exact nomatch unread.symm.trans read

/-- All that is checked before a live run. -/
theorem prepareLive_eq_ok_iff {env : List (String × String)} {w : World} {context : String} :
    prepareLive o env w = .ok (c, context) ↔ o.fullConfig = .ok c ∧ c.validate = .ok () ∧
      templateText w c.systemPrompt = .ok context ∧
        (env.lookup endpointVariable).isSome = true ∧ ∃ headers, headersOf env = .ok headers := by
  constructor
  · intro h
    simp only [prepareLive, bind, Except.bind, pure, Except.pure] at h
    split at h
    next => simp at h
    next asked =>
      split at h
      next => simp at h
      next valid =>
        split at h
        next => simp at h
        next read =>
          split at h
          next => simp [throw, throwThe, MonadExceptOf.throw] at h
          next set =>
            split at h
            next => simp at h
            next headers =>
              obtain ⟨rfl, rfl⟩ := Prod.mk.inj (Except.ok.inj h)
              exact ⟨asked, valid, read, by simpa [Option.isNone_iff_eq_none,
                Option.isSome_iff_ne_none] using set, exists_of_discard headers⟩
  · rintro ⟨asked, valid, read, set, headers, found⟩
    obtain ⟨url, set⟩ := Option.isSome_iff_exists.1 set
    simp [prepareLive, asked, valid, read, set, found, bind, Except.bind, pure, Except.pure,
      discard, Functor.discard, Functor.mapConst, Except.map]

/-- Before a live run it is found out why the order is refused. -/
theorem isRefused_of_prepareLive {env : List (String × String)} {w : World} {fault : Config.Fault}
    (live : o.replay = none) (h : prepareLive o env w = .error fault) : o.IsRefused env w := by
  by_contra sound
  obtain ⟨c, asked⟩ := exists_eq_ok fun _ unread => sound (.badLines live unread)
  have goes : o.GoesBy w c := .live live asked
  obtain ⟨⟨⟩, valid⟩ := exists_eq_ok fun _ invalid => sound (.badConfig goes invalid)
  obtain ⟨context, read⟩ := exists_eq_ok fun _ unread => sound (.noSystemPrompt live goes unread)
  have set : (env.lookup endpointVariable).isSome = true :=
    Option.isSome_iff_ne_none.2 fun unset => sound (.noEndpoint live unset)
  obtain ⟨headers, found⟩ := exists_eq_ok fun _ unread => sound (.badHeaders live unread)
  exact nomatch h.symm.trans (prepareLive_eq_ok_iff.2 ⟨asked, valid, read, set, headers, found⟩)

/-- A replay is refused, or it generates mutants with the recorded answers. -/
theorem replay_cases {env : List (String × String)} {folder : Path} {w w' : World} {ending : Ending}
    (replay : o.replay = some folder) (h : replayRun o folder w = (ending, w')) :
    (o.IsRefused env w ∧ ending.code = 2 ∧ w' = w) ∨ ∃ c records records', o.GoesBy w c ∧
      c.validate = .ok () ∧ Generates o (.replay c) c (w, records) ending (w', records') := by
  unfold replayRun at h
  split at h
  next unloaded =>
    obtain ⟨rfl, rfl⟩ := Prod.mk.inj h
    exact .inl ⟨.noRecording replay unloaded, rfl, rfl⟩
  next recording loaded =>
    have goes := GenerateOrder.GoesBy.replayed replay loaded
    dsimp only at h
    split at h
    next invalid =>
      obtain ⟨rfl, rfl⟩ := Prod.mk.inj h
      exact .inl ⟨.badConfig goes invalid, rfl, rfl⟩
    next valid =>
      obtain ⟨rfl, rfl⟩ := Prod.mk.inj h
      exact .inr ⟨_, recording.records, _, goes, valid, generates_of_generateWith rfl⟩

/-- An order is refused, and then everything is as it was, or it is carried out with a model. -/
theorem runGenerate_cases (e : Surroundings τ) {s s' : World × τ} {ending : Ending}
    (h : runGenerate o e s = (ending, s')) :
    (o.IsRefused e.env s.1 ∧ ending.code = 2 ∧ s' = s) ∨
      ∃ (σ : Type) (m : Model σ) (c : Config) (side : σ → τ) (t : σ) (u : World × σ),
        Accepts o e.env s.1 c ∧ m.StaysLinkFree ∧ side t = s.2 ∧ s' = (u.1, side u.2) ∧
          Generates o m c (s.1, t) ending u := by
  unfold runGenerate at h
  split at h
  next missing =>
    obtain ⟨rfl, rfl⟩ := Prod.mk.inj h
    exact .inl ⟨.noPackage (by simpa using missing), rfl, rfl⟩
  next package =>
    have package : s.1.isFolder o.package = true := by simpa using package
    split at h
    next folder replay =>
      split at h
      next same =>
        obtain ⟨rfl, rfl⟩ := Prod.mk.inj h
        exact .inl ⟨.ontoItself replay same, rfl, rfl⟩
      next distinct =>
        have distinct : ∀ folder, o.replay = some folder →
            sameFolder s.1 folder o.outputFolder = false := by
          intro folder' replay'
          obtain rfl := Option.some.inj (replay.symm.trans replay')
          simpa using distinct
        rcases run : replayRun o folder s.1 with ⟨ending', w'⟩
        rw [run] at h
        obtain ⟨rfl, rfl⟩ := Prod.mk.inj h
        obtain ⟨refused, code, rfl⟩ | ⟨c, records, records', goes, valid, generates⟩ :=
          replay_cases replay run
        · exact .inl ⟨refused, code, rfl⟩
        · exact .inr ⟨_, _, c, fun _ => s.2, records, (w', records'),
            ⟨package, distinct, goes, valid, by simp [replay]⟩, fun _ _ _ linkFree => linkFree, rfl,
            rfl, generates⟩
    next live =>
      unfold liveRun at h
      split at h
      next fault unprepared =>
        obtain ⟨rfl, rfl⟩ := Prod.mk.inj h
        exact .inl ⟨isRefused_of_prepareLive live unprepared, rfl, rfl⟩
      next c context prepared =>
        obtain ⟨asked, valid, read, set, headers⟩ := prepareLive_eq_ok_iff.1 prepared
        obtain ⟨rfl, rfl⟩ := Prod.mk.inj h
        refine .inr ⟨_, _, c, Live.transport, _, _, ⟨package, by simp [live], .live live asked,
          valid, fun _ => ⟨⟨context, read⟩, set, headers⟩⟩, ?_, rfl, rfl,
          generates_of_generateWith rfl⟩
        split
        next => exact Model.StaysLinkFree.cached (fun _ _ _ linkFree => linkFree) _
        next => exact fun _ _ _ linkFree => linkFree

/-- The code 2 tells that an order is refused. -/
theorem code_eq_two_iff {e : Surroundings τ} {s s' : World × τ} {ending : Ending}
    (h : runGenerate o e s = (ending, s')) : ending.code = 2 ↔ o.IsRefused e.env s.1 := by
  obtain ⟨refused, code, -⟩ | ⟨σ, m, c, side, t, u, accepts, -, -, -, generates⟩ :=
    runGenerate_cases e h
  · exact ⟨fun _ => refused, fun _ => code⟩
  · cases generates with
    | noTemplate unread code => exact ⟨fun _ => .noTemplate accepts.goes unread, fun _ => code⟩
    | noPackage found _ code | unwritten found _ _ code | done found _ _ code =>
        exact ⟨fun two => absurd (code.symm.trans two) (by decide),
          fun refused => absurd refused (accepts.not_isRefused found)⟩

/-- Whether a run either left everything as it was or came to its end, as its code tells. The
configuration is the one by which the run goes. -/
structure WholeOrNone (o : GenerateOrder) (env : List (String × String)) (s s' : World × τ)
    (ending : Ending) : Prop where
  /-- The code 2 tells that the order is refused. -/
  refused : ending.code = 2 ↔ o.IsRefused env s.1
  untouched : ending.code = 2 → s' = s
  /-- A package that cannot be selected or read is the fault, unless the order is refused. -/
  unread : ∀ c fault, o.GoesBy s.1 c → Package.load s.1 o.package c = .error fault →
    s' = s ∧ (ending.code ≠ 2 → ending.code = 3 ∧ ending.fault = some fault.message)
  /-- Only a run that could not write ends with the code 3 otherwise. -/
  unwritten : ending.code = 3 → (∃ c fault, o.GoesBy s.1 c ∧
      Package.load s.1 o.package c = .error fault) ∨
    ∃ fault : ArtifactFault, ending.fault = some ("Failed to write run output: " ++ fault.message)
  whole : ending.code = 0 → ∃ result, Artifacts.HoldsRun s'.1 o.outputFolder result

theorem wholeOrNone_of_runGenerate {e : Surroundings τ} {s s' : World × τ} {ending : Ending}
    (numbers : o.config.NumbersFit) (linkFree : s.1.LinkFree)
    (h : runGenerate o e s = (ending, s')) : WholeOrNone o e.env s s' ending := by
  have refused := code_eq_two_iff h
  obtain ⟨-, two, rfl⟩ | ⟨σ, m, c, side, t, u, accepts, stays, same, rfl, generates⟩ :=
    runGenerate_cases e h
  · exact ⟨refused, fun _ => rfl, fun _ _ _ _ => ⟨rfl, fun other => absurd two other⟩,
      fun three => absurd (two.symm.trans three) (by decide),
      fun zero => absurd (two.symm.trans zero) (by decide)⟩
  · cases generates with
    | noTemplate _ two =>
        rw [same]
        exact ⟨refused, fun _ => rfl, fun _ _ _ _ => ⟨rfl, fun other => absurd two other⟩,
          fun three => absurd (two.symm.trans three) (by decide),
          fun zero => absurd (two.symm.trans zero) (by decide)⟩
    | noPackage _ unread three told =>
        rw [same]
        refine ⟨refused, fun _ => rfl, fun c' fault goes unread' => ⟨rfl, fun _ => ⟨three, ?_⟩⟩,
          fun _ => .inl ⟨c, _, accepts.goes, unread⟩,
          fun zero => absurd (three.symm.trans zero) (by decide)⟩
        obtain rfl := goes.unique accepts.goes
        rw [told, Except.error.inj (unread.symm.trans unread')]
    | unwritten _ read _ three told =>
        refine ⟨refused, fun two => absurd (three.symm.trans two) (by decide),
          fun c' fault goes unread => ?_, fun _ => .inr ⟨_, told⟩,
          fun zero => absurd (three.symm.trans zero) (by decide)⟩
        obtain rfl := goes.unique accepts.goes
        exact nomatch unread.symm.trans read
    | done _ read made zero =>
        have linkFree : (s.1, t).1.LinkFree := linkFree
        have holds := Job.holdsRun_of_generate rfl linkFree stays
          (accepts.goes.numbersFit numbers) accepts.valid made
        refine ⟨refused, fun two => absurd (zero.symm.trans two) (by decide),
          fun c' fault goes unread => ?_, fun three => absurd (zero.symm.trans three) (by decide),
          fun _ => ⟨_, holds⟩⟩
        obtain rfl := goes.unique accepts.goes
        exact nomatch unread.symm.trans read

/-- There is no partial run where there are no links: a command that ends with code 2 has changed
nothing and asked nothing, and so has one to generate mutants for a package that cannot be read; and
one that ends with code 0 has left the mutants and the summary of its run in the output folder. -/
theorem no_partial_run (args : List String) (e : Surroundings τ) {s s' : World × τ}
    {ending : Ending} (noLinks : s.1.hasNoLinks = true) (h : run args e s = (ending, s')) :
    (ending.code = 2 → s' = s) ∧
      ∀ o, read e.env false args = .ok (.generate o) → WholeOrNone o e.env s s' ending := by
  unfold run at h
  split at h
  next asked =>
    obtain ⟨-, rfl⟩ := Prod.mk.inj h
    exact ⟨fun _ => rfl, fun o same => nomatch asked.symm.trans same⟩
  next o asked =>
    have numbers : o.config.NumbersFit := makes_read e.env false args _ asked o rfl
    have whole := wholeOrNone_of_runGenerate numbers (World.linkFree_of_hasNoLinks noLinks) h
    refine ⟨whole.untouched, fun o' same => ?_⟩
    obtain rfl := Command.generate.inj (Except.ok.inj (asked.symm.trans same))
    exact whole
  next asked =>
    obtain ⟨-, rfl⟩ := Prod.mk.inj h
    exact ⟨fun _ => rfl, fun o same => nomatch asked.symm.trans same⟩

/-- A command line that replays a recorded run leaves a run in its output folder; where no run is
recorded, it is refused and changes nothing. -/
theorem no_partial_run_of_replays :
    let args := ["generate", "p", "--replay", "r", "--out-dir", "o", "--no-caching", "--cache-dir",
      "c", "-q"]
    let r : Route := ⟨0, [], [Text.bytes "r"]⟩
    let w := recordedAt r [r.address]
    let bare : World := ⟨[([Text.bytes "p"], .folder)], []⟩
    (∃ ending s' result, run args nowhere (w, ()) = (ending, s') ∧ ending.code = 0 ∧
      Artifacts.HoldsRun s'.1 (.ofString "o") result) ∧
    ∃ ending s', run args nowhere (bare, ()) = (ending, s') ∧ ending.code = 2 ∧ s'.1 = bare := by
  intro args r w bare
  have asked : read [] false args = .ok (.generate (replayOrder "r" "o")) := rfl
  have carried (w : World) : run args nowhere (w, ()) =
      runGenerate (replayOrder "r" "o") nowhere (w, ()) := rfl
  constructor
  · have loaded : Recording.load w (.ofString "r") = .ok ⟨Config.standard, []⟩ :=
      load_recordedAt (by rfl) (by rfl)
    have accepted : (run args nowhere (w, ())).1.code = 0 := by
      rw [carried, runGenerate_replayOrder _ (by decide +kernel) (by decide +kernel) loaded]
      decide +kernel
    rcases h : run args nowhere (w, ()) with ⟨ending, s'⟩
    rw [h] at accepted
    obtain ⟨-, whole⟩ := no_partial_run args nowhere (by decide +kernel) h
    obtain ⟨result, holds⟩ := (whole _ asked).whole accepted
    exact ⟨ending, s', result, rfl, accepted, holds⟩
  · have refused : (run args nowhere (bare, ())).1.code = 2 := by
      rw [carried]
      decide +kernel
    rcases h : run args nowhere (bare, ()) with ⟨ending, s'⟩
    rw [h] at refused
    obtain ⟨untouched, -⟩ := no_partial_run args nowhere (by decide +kernel) h
    exact ⟨ending, s', rfl, refused, congrArg Prod.fst (untouched refused)⟩

end Command

end Mutagenesis
