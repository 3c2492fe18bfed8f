import Mutagenesis.Model.Replay
import Mutagenesis.Proofs.Json.Objects
import Mutagenesis.Proofs.Json.Summaries

/-!
# Summaries of other versions

Summaries that were written before some counts were kept, or by a later program that tells more, are
read all the same. A version of a summary has its members and those of its configuration in any
order, any members of unknown names among them, and lacks some whose values the reader supplies. It
is read as that summary, and a replay takes its configuration from it. Where a member stands twice,
the summary is refused.
-/
namespace Mutagenesis

open Files (World)
open Json (Blanks IsRepeat IsTextOf Readable)

variable {text : List Char}

/-! ## Configurations -/

namespace Config

variable {c : Config}

/-- The members that may be left out: those with the values that the reader supplies. -/
def optional : List (String × Json) :=
  [("ignore", .str ""), ("benchmark", .bool false), ("maxLinesInPlaceHolder", .nat 1)]

/-- The versions of the object that is written of a configuration. -/
def IsVersion (c : Config) (text : List Char) : Prop :=
  ∃ written, c.toJson = .obj written ∧ shape.IsVersion (fun m => IsTextOf m.2) written optional text

/-- The objects of members of a configuration of which one stands twice. -/
def IsDoubled (c : Config) (text : List Char) : Prop :=
  ∃ written, c.toJson = .obj written ∧ shape.IsDoubled (fun m => IsTextOf m.2) written text

theorem named (f : Field) : shape.field? (shape.name f) = some f := by
  cases f <;> rfl

theorem toJson_eq_rowsOf (c : Config) :
    c.toJson = .obj ((Json.Shape.rowsOf (s := shape) c.value c.json?).map Json.Shape.Row.member) :=
  (toJson_eq_fields c).trans
    (congrArg Json.obj (Json.Shape.map_member_rowsOf (s := shape) c.value c.json?).symm)

/-- The text of a member is read as the value of its field. -/
theorem readable_field (fits : c.Fits) {f : Field} {v : Json} (given : c.json? f = some v)
    (h : IsTextOf v text) : Readable text fun found => f.decoder found = .ok (c.value f) := by
  have written := written_field fits.toNumbersFit fits.temperature f v given
  exact (h.readable written.writable).imp fun found holds => written.reads holds

theorem fallback_of_optional {f : Field} {v : Json} (given : c.json? f = some v)
    (h : (f.name, v) ∈ optional) : f.fallback = some (c.value f) := by
  simp only [optional, List.mem_cons, Prod.mk.injEq, List.not_mem_nil, or_false] at h
  cases f with
  | ignore =>
      obtain rfl := Option.some.inj given
      have same : c.ignore = "" := by simpa [Field.name] using h
      simp [Field.fallback, value, same]
  | benchmark =>
      obtain rfl := Option.some.inj given
      have same : c.benchmark = false := by simpa [Field.name] using h
      simp [Field.fallback, value, same]
  | maxLinesInPlaceholder =>
      obtain rfl := Option.some.inj given
      have same : c.maxLinesInPlaceholder = 1 := by
        simp [Field.name, Json.nat] at h
        omega
      simp [Field.fallback, value, same]
  | _ => simp [Field.name] at h

/-- What the program writes of a configuration is a version of it. -/
theorem isVersion_wide (c : Config) (depth : Nat) : c.IsVersion (c.toJson.wide depth) :=
  ⟨_, rfl, Json.Shape.isVersion_wide optional depth fun m _ => Json.isTextOf_wide (depth + 1) m.2⟩

theorem IsVersion.readable (fits : c.Fits) (h : c.IsVersion text) :
    Readable text fun found => decoder found = .ok c := by
  obtain ⟨written, same, version⟩ := h
  obtain rfl := Json.obj.inj ((toJson_eq_rowsOf c).symm.trans same)
  exact version.readable named (by decide) (fun f v given text h => readable_field fits given h)
    (fallback_of_unwritten (y := c.temperature)) (fun f v => fallback_of_optional)
    fun found d draft needs => decoder_eq_ok draft fun f => needs f (mem_all f)

theorem IsDoubled.readable (fits : c.Fits) (h : c.IsDoubled text) :
    Readable text fun found => IsRepeat (decoder found) := by
  obtain ⟨written, same, kept, among, twice, object⟩ := h
  obtain rfl := Json.obj.inj ((toJson_eq_rowsOf c).symm.trans same)
  have refused := object.refused (P := fun r out => out = .ok r.value) named (by decide)
    (fun r out decoded => .inl ⟨_, decoded⟩) (fun r hr text h => by
      obtain ⟨-, given, value⟩ := Json.Shape.mem_rowsOf.1 hr
      exact value ▸ readable_field fits given h) among (.inl twice)
  exact refused.imp fun found again => again.bind _

end Config

/-! ## Summaries -/

namespace RunSummary

variable {s : RunSummary}

/-- The members that may be left out. -/
def optional : List (String × Json) := [("nrRetries", .nat 0), ("nrFailures", .nat 0)]

/-- The texts of a member of a summary, given those of the member for its configuration. -/
def textOf (ofConfig : List Char → Prop) (m : String × Json) (text : List Char) : Prop :=
  if m.1 = "metaInfo" then ofConfig text else IsTextOf m.2 text

/-- The versions of the object that is written of a summary, with a version of its
configuration. -/
def IsVersion (s : RunSummary) (text : List Char) : Prop :=
  ∃ written, s.toJson = .obj written ∧
    shape.IsVersion (textOf s.config.IsVersion) written optional text

/-- The objects of members of a summary of which one stands twice, and those in whose configuration
one stands twice. -/
inductive IsDoubled (s : RunSummary) (text : List Char) : Prop
  | outside {written} (same : s.toJson = .obj written)
      (h : shape.IsDoubled (textOf s.config.IsVersion) written text)
  | inside {written kept} (same : s.toJson = .obj written) (among : ∀ m ∈ kept, m ∈ written)
      (config : ("metaInfo", s.config.toJson) ∈ kept)
      (h : shape.IsObjectOf (textOf s.config.IsDoubled) kept text)

theorem named (f : Field) : shape.field? (shape.name f) = some f := by
  cases f <;> rfl

/-- The rows of a summary. -/
def rows (s : RunSummary) : List shape.Row :=
  Json.Shape.rowsOf (s := shape) s.value fun f => some (s.json f)

theorem toJson_eq_rows (s : RunSummary) :
    s.toJson = .obj (s.rows.map Json.Shape.Row.member) :=
  (toJson_eq_fields s).trans
    (congrArg Json.obj (Json.Shape.map_member_rowsOf (s := shape) s.value _).symm)

theorem mem_rows {r : shape.Row} (h : r ∈ s.rows) :
    r.json = s.json r.field ∧ r.value = s.value r.field := by
  obtain ⟨-, json, value⟩ := Json.Shape.mem_rowsOf.1 h
  exact ⟨(Option.some.inj json).symm, value⟩

/-- What the program writes of a summary is a version of it. -/
theorem isVersion_wide (s : RunSummary) (depth : Nat) : s.IsVersion (s.toJson.wide depth) := by
  rw [toJson_eq_rows]
  refine ⟨_, toJson_eq_rows s, Json.Shape.isVersion_wide optional depth fun m hm => ?_⟩
  obtain ⟨r, hr, rfl⟩ := List.mem_map.1 hm
  obtain ⟨json, -⟩ := mem_rows hr
  obtain ⟨f, x, v⟩ := r
  obtain rfl : v = s.json f := json
  cases f with
  | config => exact Config.isVersion_wide s.config (depth + 1)
  | _ => exact Json.isTextOf_wide (depth + 1) _

/-- The text of a count is read as the count. -/
theorem readable_count (fits : s.Fits) {f : Field} (isCount : f ≠ .config)
    {ofConfig : List Char → Prop} (h : textOf ofConfig (f.name, s.json f) text) :
    Readable text fun found => f.decoder found = .ok (s.value f) := by
  have other : f.name ≠ "metaInfo" := by
    cases f with
    | config => exact absurd rfl isCount
    | _ => decide
  have written := written_field fits.toCountsFit fits.config.toNumbersFit fits.config.temperature f
  have h : IsTextOf (s.json f) text := by simpa [textOf, other] using h
  exact (h.readable written.writable).imp fun found holds => written.reads holds

theorem readable_field (fits : s.Fits) {f : Field}
    (h : textOf s.config.IsVersion (f.name, s.json f) text) :
    Readable text fun found => f.decoder found = .ok (s.value f) := by
  by_cases isConfig : f = .config
  · subst isConfig
    exact Config.IsVersion.readable fits.config h
  · exact readable_count fits isConfig h

theorem fallback_of_optional {f : Field} (h : (f.name, s.json f) ∈ optional) :
    f.fallback = some (s.value f) := by
  simp only [optional, List.mem_cons, Prod.mk.injEq, List.not_mem_nil, or_false] at h
  cases f with
  | nrRetries =>
      have same : s.failures.nrRetries = 0 := by simpa [Field.name, json, Json.nat] using h
      simp [Field.fallback, value, same]
  | nrFailures =>
      have same : s.failures.nrFailures = 0 := by simpa [Field.name, json, Json.nat] using h
      simp [Field.fallback, value, same]
  | _ => simp [Field.name] at h

theorem IsVersion.readable (fits : s.Fits) (h : s.IsVersion text) :
    Readable text fun found => decoder found = .ok s := by
  obtain ⟨written, same, version⟩ := h
  obtain rfl := Json.obj.inj ((toJson_eq_rows s).symm.trans same)
  refine version.readable named (by decide) (fun f v given text h => ?_) (by simp)
    (fun f v given h => ?_)
    fun found d draft needs => decoder_eq_ok draft fun f => needs f (mem_all f)
  · obtain rfl := Option.some.inj given
    exact readable_field fits h
  · obtain rfl := Option.some.inj given
    exact fallback_of_optional h

/-- What a row is decoded to where the configuration is refused and all else is read. -/
def Refuses (r : shape.Row) (out : Except Json.Fault (shape.Value r.field)) : Prop :=
  (r.field = Field.config ∧ IsRepeat out) ∨ (r.field ≠ Field.config ∧ out = .ok r.value)

theorem readable_refused (fits : s.Fits) {r : shape.Row} (h : r ∈ s.rows)
    (written : textOf s.config.IsDoubled r.member text) :
    Readable text fun found => Refuses r (shape.decoder r.field found) := by
  obtain ⟨json, value⟩ := mem_rows h
  obtain ⟨f, x, v⟩ := r
  obtain rfl : v = s.json f := json
  by_cases isConfig : f = Field.config
  · subst isConfig
    exact (Config.IsDoubled.readable fits.config written).imp fun found again => .inl ⟨rfl, again⟩
  · exact (readable_count fits isConfig written).imp fun found decoded =>
      .inr ⟨isConfig, decoded.trans (congrArg Except.ok value.symm)⟩

theorem IsDoubled.readable (fits : s.Fits) (h : s.IsDoubled text) :
    Readable text fun found => IsRepeat (decoder found) := by
  refine Readable.imp (P := fun found => IsRepeat (shape.draft found)) ?_ fun _ h => h.bind _
  cases h with
  | outside same doubled =>
      obtain ⟨kept, among, twice, object⟩ := doubled
      obtain rfl := Json.obj.inj ((toJson_eq_rows s).symm.trans same)
      refine object.refused (P := fun r out => out = .ok r.value) named (by decide)
        (fun r out decoded => .inl ⟨_, decoded⟩) (fun r hr text h => ?_) among (.inl twice)
      obtain ⟨json, value⟩ := mem_rows hr
      obtain ⟨f, x, v⟩ := r
      obtain rfl : v = s.json f := json
      exact value ▸ readable_field fits h
  | inside same among config object =>
      obtain rfl := Json.obj.inj ((toJson_eq_rows s).symm.trans same)
      have row : (⟨Field.config, s.config, s.config.toJson⟩ : shape.Row) ∈ s.rows :=
        Json.Shape.mem_rowsOf.2 ⟨mem_all _, rfl, rfl⟩
      refine object.refused (P := Refuses) named (by decide) ?_
        (fun r hr text h => readable_refused fits hr h) among (.inr ⟨_, row, config, ?_⟩)
      · rintro r out (⟨-, again⟩ | ⟨-, decoded⟩)
        · exact .inr again
        · exact .inl ⟨_, decoded⟩
      · rintro x (⟨-, name, offset, fault⟩ | ⟨other, -⟩)
        · exact nomatch fault
        · exact other rfl

/-! ## Loading -/

section Loading

variable {w : World} {folder : Path} {source : String}

/-- A text that is read as a summary, or refused, is so where it stands in the file of a
summary. -/
theorem exists_loadSummary {P : Json.Found → Prop} (h : Readable text P) (lead trail : Blanks)
    (file : w.readText (Artifacts.summaryPath folder) = .ok source)
    (whole : source.toList = lead.chars ++ (text ++ trail.chars)) :
    ∃ found, P found ∧ Artifacts.loadSummary w folder =
      (decoder found).mapError (.json (Artifacts.summaryPath folder) source) := by
  obtain ⟨found, holds, same⟩ := Json.exists_decode h lead trail source whole decoder
  exact ⟨found, holds, by rw [Artifacts.loadSummary, Artifacts.readJson, file]; exact same ▸ rfl⟩

/-- A file with a version of a summary is loaded as that summary, and a replay of the run takes its
configuration. A file with an object in which a member stands twice is refused for that. -/
theorem versions_load_alike (fits : s.Fits) (lead trail : Blanks)
    (file : w.readText (Artifacts.summaryPath folder) = .ok source)
    (whole : source.toList = lead.chars ++ (text ++ trail.chars)) :
    (s.IsVersion text → Artifacts.loadSummary w folder = .ok s ∧
      Recording.load w folder =
        (Artifacts.loadRecords w folder).map fun records => ⟨s.config, records⟩) ∧
    (s.IsDoubled text → ∃ name offset,
      let fault : ArtifactFault :=
        .json (Artifacts.summaryPath folder) source ⟨.repeated name, offset⟩
      Artifacts.loadSummary w folder = .error fault ∧ Recording.load w folder = .error fault) := by
  constructor
  · intro version
    obtain ⟨found, decoded, loaded⟩ :=
      exists_loadSummary (version.readable fits) lead trail file whole
    rw [decoded] at loaded
    refine ⟨loaded, ?_⟩
    rw [Recording.load, loaded]
    cases Artifacts.loadRecords w folder <;> rfl
  · intro doubled
    obtain ⟨found, ⟨name, offset, refused⟩, loaded⟩ :=
      exists_loadSummary (doubled.readable fits) lead trail file whole
    rw [refused] at loaded
    exact ⟨name, offset, loaded, by rw [Recording.load, loaded]; rfl⟩

/-- A summary and its configuration without the members that may be left out, each with its members
in the opposite order and before them a note that holds a number beyond the range of doubles; and
the same summary with one of its counts twice. -/
theorem versions_load_alike_of_older :
    let c := Config.standard
    let s := RunSummary.start c
    let note : Json.MemberText := { Json.MemberText.wide 1 ("note", .null) with
      value := Json.listText [⟨.none, "1e999".toList, .none⟩] .none }
    let lacking (names : List String) (ms : List (String × Json)) := ms.filter fun m => m.1 ∉ names
    let object (ms : List (String × Json)) (value : String × Json → List Char) :=
      Json.objectText
        ((ms.map fun m => { Json.MemberText.wide 1 m with value := value m }) ++ [note]).reverse
        .none
    let ofConfig := object (lacking ["ignore", "benchmark", "maxLinesInPlaceHolder"]
      ((Json.Shape.rowsOf (s := Config.shape) c.value c.json?).map Json.Shape.Row.member))
      fun m => m.2.wide 1
    let kept := lacking ["nrRetries", "nrFailures"] (s.rows.map Json.Shape.Row.member)
    let value (m : String × Json) := if m.1 = "metaInfo" then ofConfig else m.2.wide 1
    let older := object kept value
    let doubled := object (("nrMutants", .nat 0) :: kept) value
    let w (text : List Char) : World := ⟨[([Text.bytes "r"], .folder),
      ([Text.bytes Artifacts.summaryName, Text.bytes "r"],
        .file (Text.bytes (String.ofList text)))], []⟩
    s.Fits ∧ s.IsVersion older ∧ Artifacts.loadSummary (w older) (.ofString "r") = .ok s ∧
      Recording.load (w older) (.ofString "r") = .ok ⟨c, []⟩ ∧
      s.IsDoubled doubled ∧ ∃ name offset, Recording.load (w doubled) (.ofString "r") =
        .error (.json (Artifacts.summaryPath (.ofString "r")) (String.ofList doubled)
          ⟨.repeated name, offset⟩) := by
  intro c s note lacking object ofConfig kept value older doubled w
  have fits : s.Fits := RunSummary.fits_of_counts rfl (by decide) (by decide)
  have file (text : List Char) : (w text).readText (Artifacts.summaryPath (.ofString "r")) =
      .ok (String.ofList text) := by
    have read : (w text).read (Artifacts.summaryPath (.ofString "r")) =
        .ok (Text.bytes (String.ofList text)) := by rfl
    simp [World.readText, read, bind, Except.bind, pure, Except.pure]
  have isText : Json.IsText note.value := by
    refine .list _ (List.forall_mem_singleton.2 ?_)
    exact .numeral (n := ⟨false, ['1'], [], some (false, ['9', '9', '9'])⟩)
      ⟨.digits (by decide) (by decide) (by simp), [], "e999".toList, .none,
        .digits (.inl rfl) .none (by simp) (List.all_eq_true.1 rfl), rfl⟩
  have unknown {s : Json.Shape} (new : "note" ∉ s.fields.map s.name) :
      ∀ t ∈ [note], s.IsUnknown t :=
    List.forall_mem_singleton.2 ⟨⟨"note", new, Json.spells_flatMap_escaped _⟩, isText⟩
  have split (names : List String) (ms : List (String × Json)) :
      ms.Perm (lacking names ms ++ ms.filter fun m => !decide (m.1 ∉ names)) :=
    (List.filter_append_perm _ ms).symm
  have config : c.IsVersion ofConfig := by
    refine ⟨_, Config.toJson_eq_rowsOf c, _, _,
      split ["ignore", "benchmark", "maxLinesInPlaceHolder"] _, fun m hm => ?_, ?_⟩
    · exact hm
    · exact Json.Shape.isObjectOf_map 1 _ (fun m _ => Json.isTextOf_wide 1 m.2) .none
        (unknown (by decide)) (List.reverse_perm _)
  have texts : ∀ m, textOf s.config.IsVersion m (value m) := by
    intro m
    simp only [textOf, value]
    split
    next => exact config
    next => exact Json.isTextOf_wide 1 m.2
  have version : s.IsVersion older := by
    refine ⟨_, toJson_eq_rows s, _, _, split ["nrRetries", "nrFailures"] _, fun m hm => ?_, ?_⟩
    · exact hm
    · exact Json.Shape.isObjectOf_map 1 _ (fun m _ => texts m) .none (unknown (by decide))
        (List.reverse_perm _)
  have count : ("nrMutants", .nat 0) ∈ kept := by
    refine List.mem_filter.2 ⟨?_, by decide⟩
    exact List.mem_map.2 ⟨⟨Field.nrMutants, (0 : Nat), .nat 0⟩,
      Json.Shape.mem_rowsOf.2 ⟨mem_all _, rfl, rfl⟩, rfl⟩
  have twice : s.IsDoubled doubled := by
    refine .outside (toJson_eq_rows s) ⟨("nrMutants", .nat 0) :: kept, ?_, ?_, ?_⟩
    · exact List.forall_mem_cons.2 ⟨List.mem_of_mem_filter count, fun m => List.mem_of_mem_filter⟩
    · exact fun distinct => (List.nodup_cons.1 distinct).1 count
    · exact Json.Shape.isObjectOf_map 1 _ (fun m _ => texts m) .none (unknown (by decide))
        (List.reverse_perm _)
  obtain ⟨loads, -⟩ :=
    versions_load_alike fits .none .none (file older) (by simp [Blanks.none]; rfl)
  obtain ⟨-, refuses⟩ :=
    versions_load_alike fits .none .none (file doubled) (by simp [Blanks.none]; rfl)
  obtain ⟨loaded, replayed⟩ := loads version
  obtain ⟨name, offset, -, refused⟩ := refuses twice
  have records : Artifacts.loadRecords (w older) (.ofString "r") = .ok [] := by rfl
  rw [records] at replayed
  exact ⟨fits, version, loaded, replayed, twice, name, offset, refused⟩

end Loading

end RunSummary

end Mutagenesis
