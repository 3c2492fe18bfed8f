import Mutagenesis.Proofs.Json.Summaries

/-!
# What decoders make

Whatever a decoder accepts, it makes numbers that fit their words. `Makes` says that all that comes
of a computation has a property; it goes through the steps of a decoder, and for a record it is
enough to know it of each field.
-/
namespace Mutagenesis

/-- Whether all that comes of a computation has a property. -/
def Makes {ε α : Type} (x : Except ε α) (P : α → Prop) : Prop := ∀ a, x = .ok a → P a

namespace Makes

variable {ε α β : Type} {x : Except ε α} {P : α → Prop} {Q : β → Prop}

theorem error (fault : ε) (P : α → Prop) : Makes (.error fault) P := fun _ h => nomatch h

theorem ok {a : α} (h : P a) : Makes (.ok a : Except ε α) P := fun _ same => Except.ok.inj same ▸ h

/-- What comes of steps comes of the last one. -/
theorem bind {f : α → Except ε β} (first : Makes x P) (next : ∀ a, P a → Makes (f a) Q) :
    Makes (x >>= f) Q := by
  intro b h
  cases made : x with
  | error fault => simp [made, Bind.bind, Except.bind] at h
  | ok a => exact next a (first a made) b (by simpa [made, Bind.bind, Except.bind] using h)

theorem any (x : Except ε α) : Makes x fun _ => True := fun _ _ => trivial

theorem map {f : α → β} (h : Makes x fun a => Q (f a)) : Makes (x.map f) Q := by
  intro b same
  cases made : x with
  | error fault => simp [made, Except.map] at same
  | ok a =>
      simp only [made, Except.map, Except.ok.injEq] at same
      exact same ▸ h a made

theorem mapError {ε' : Type} {f : ε → ε'} (h : Makes x P) : Makes (x.mapError f) P := by
  intro a same
  cases made : x with
  | error fault => simp [made, Except.mapError] at same
  | ok b => exact h a (by simpa [made, Except.mapError] using same)

end Makes

namespace Json

/-- Numbers are read up to the bound. -/
theorem makes_natural (most : Nat) (expected : String) (found : Found) :
    Makes (natural most expected found) (· ≤ most) := by
  unfold natural
  split
  next n stop =>
    split
    next small => exact .ok small
    next => exact .error _ _
  next => exact .error _ _
  next => exact .error _ _

/-- What is decoded from a text is made by the decoder. -/
theorem makes_decode {α : Type} {d : Decoder α} {P : α → Prop}
    (h : ∀ found, Makes (d found) P) (source : String) : Makes (decode d source) P := by
  refine (h _).bind fun x hx => (Makes.any _).bind fun last _ => ?_
  dsimp only
  split
  next => exact .ok hx
  next => exact .error _ _

namespace Shape

variable {s : Shape} {P : (f : s.Field) → s.Value f → Prop}

/-- Whether the values of a draft have the properties of their fields. -/
def Holds (P : (f : s.Field) → s.Value f → Prop) (d : s.Draft) : Prop :=
  ∀ f x, d f = some x → P f x

theorem Holds.set {d : s.Draft} (h : Holds P d) {f : s.Field} {x : s.Value f} (hx : P f x) :
    Holds P (d.set f x) := by
  intro g y hy
  by_cases same : f = g
  · subst same
    rw [Draft.set_same] at hy
    exact Option.some.inj hy ▸ hx
  · rw [Draft.set_other d x same] at hy
    exact h g y hy

section

variable (each : ∀ f found, Makes (s.decoder f found) (P f))
include each

theorem makes_readMember {d : s.Draft} (h : Holds P d) (member : Key × Found) :
    Makes (s.readMember d member) (Holds P) := by
  unfold readMember
  split
  next => exact .error _ _
  next =>
    split
    next => exact .map fun _ _ => h
    next f _ =>
      split
      next => exact .error _ _
      next => exact .map fun x hx => h.set (each f _ x hx)

theorem makes_readMembers {d : s.Draft} (h : Holds P d) (members : List (Key × Found)) :
    Makes (s.readMembers d members) (Holds P) := by
  induction members generalizing d with
  | nil => exact .ok h
  | cons member members ih => exact (makes_readMember each h member).bind fun _ h => ih h

theorem makes_readInOrder {d : s.Draft} (h : Holds P d) (close : Except Fault Nat) (index : Nat)
    (fields : List s.Field) (items : List Found) :
    Makes (s.readInOrder d close index fields items) fun made => Holds P made.1 := by
  induction fields generalizing d index items with
  | nil => exact .ok h
  | cons f fields ih =>
      cases items with
      | nil =>
          refine (Makes.any close).bind fun stop _ => ?_
          split
          next => exact .error _ _
          next => exact ih h _ _
      | cons found items => exact (each f found).bind fun x hx => ih (h.set hx) _ _

/-- The values of a record have the properties of their fields. -/
theorem makes_draft (found : Found) : Makes (s.draft found) fun d => Holds P d.1 := by
  have none_yet : Holds P (Draft.empty s) := fun _ _ h => nomatch h
  unfold draft
  split
  next members close =>
    exact (makes_readMembers each none_yet members).bind fun d hd =>
      (Makes.any close).bind fun stop _ => .ok hd
  next start held items close =>
    refine (makes_readInOrder each none_yet close 0 s.fields items).bind fun made hd => ?_
    obtain ⟨d, _ | ⟨v, left⟩⟩ := made
    · exact (Makes.any close).bind fun stop _ => .ok hd
    · cases held <;> exact .error _ _
  next => exact .error _ _

end

theorem makes_need {d : s.Draft × Nat} (h : Holds P d.1)
    (fallback : ∀ f x, s.fallback f = some x → P f x) (f : s.Field) : Makes (s.need d f) (P f) := by
  unfold need
  split
  next x hx => exact .ok (h f x hx)
  next =>
    split
    next x hx => exact .ok (fallback f x hx)
    next => exact .error _ _

/-- What is made of the fields of a record, each of which has its property. -/
theorem makes_fields {α : Type} {Q : α → Prop}
    (each : ∀ f found, Makes (s.decoder f found) (P f))
    (fallback : ∀ f x, s.fallback f = some x → P f x) {make : s.Draft × Nat → Except Fault α}
    (made : ∀ d, (∀ f, Makes (s.need d f) (P f)) → Makes (make d) Q) (found : Found) :
    Makes (s.draft found >>= make) Q :=
  (makes_draft each found).bind fun d h => made d (makes_need h fallback)

end Shape

end Json

/-! ## Records of prompts -/

/-- Whether a number fits in sixty-four bits. -/
def IsWord (n : Nat) : Prop := n ≤ 0xFFFFFFFFFFFFFFFF

theorem Usage.makes_decoder (found : Json.Found) : Makes (decoder found) Fits :=
  Json.Shape.makes_fields (s := shape) (P := fun _ => IsWord) (fun _ => Json.makes_natural _ _)
    (fun _ _ missing => nomatch missing)
    (fun _ need => (need .promptTokens).bind fun _ promptTokens =>
      (need .completionTokens).bind fun _ completionTokens =>
        (need .totalTokens).bind fun _ totalTokens =>
          .ok ⟨promptTokens, completionTokens, totalTokens⟩) found

namespace Answer

/-- Whether the numbers in a field fit. -/
def Field.Holds : (f : Field) → f.Value → Prop
  | completions, _ => True
  | usage, u => u.Fits

theorem makes_decoder (found : Json.Found) : Makes (decoder found) (·.usage.Fits) := by
  have zero : Usage.zero.Fits := ⟨Nat.zero_le _, Nat.zero_le _, Nat.zero_le _⟩
  refine Json.Shape.makes_fields (s := shape) (P := Field.Holds) ?_ ?_ (fun _ need =>
    (need .completions).bind fun completions _ => (need .usage).bind fun used usage =>
      .ok (a := Answer.mk completions used) (P := (·.usage.Fits)) usage) found
  · intro f
    cases f with
    | completions => exact fun _ => .any _
    | usage => exact Usage.makes_decoder
  · intro f x fallback
    cases f with
    | completions => exact trivial
    | usage => exact Option.some.inj fallback ▸ zero

end Answer

namespace Outcome

theorem Status.makes_decode (s : Status) (v : Json.Found) : Makes (s.decode v) Outcome.Fits := by
  cases s with
  | completed => exact .map (Answer.makes_decoder v)
  | failed =>
      cases v with
      | null => exact .ok (a := Outcome.failed) (P := Outcome.Fits) trivial
      | _ => exact .error _ _

theorem Status.makes_alone (s : Status) (stop : Nat) : Makes (s.alone stop) Outcome.Fits := by
  cases s with
  | completed => exact .error _ _
  | failed => exact .ok (a := Outcome.failed) (P := Outcome.Fits) trivial

theorem makes_finish (rest : List (Json.Key × Json.Found)) (close : Except Json.Fault Nat)
    {o : Outcome} (h : o.Fits) : Makes (finish rest close o) Outcome.Fits := by
  refine (Makes.any _).bind fun member _ => ?_
  cases member with
  | some m => exact .error _ _
  | none => exact (Makes.any _).bind fun _ _ => .ok h

theorem makes_ofMembers (members : List (Json.Key × Json.Found)) (close : Except Json.Fault Nat) :
    Makes (ofMembers members close) Outcome.Fits := by
  refine (Makes.any _).bind fun member _ => ?_
  obtain _ | ⟨_ | _, stop, v, rest⟩ := member
  · exact (Makes.any _).bind fun _ _ => .error _ _
  · refine (Makes.any _).bind fun status _ => (Makes.any _).bind fun second _ => ?_
    obtain _ | ⟨_ | _, stop, v, rest⟩ := second
    · exact (Makes.any _).bind fun _ _ => status.makes_alone _
    · exact .error _ _
    · exact (status.makes_decode v).bind fun o h => makes_finish rest close h
  · refine (Makes.any _).bind fun held _ => (Makes.any _).bind fun second _ => ?_
    obtain _ | ⟨_ | _, stop, v, rest⟩ := second
    · exact (Makes.any _).bind fun _ _ => .error _ _
    · exact (Makes.any _).bind fun status _ => (status.makes_decode held).bind fun o h =>
        makes_finish rest close h
    · exact .error _ _

theorem makes_ofItems (start : Nat) (items : List Json.Found) (close : Except Json.Fault Nat) :
    Makes (ofItems start items close) Outcome.Fits := by
  match items with
  | [] => exact (Makes.any _).bind fun _ _ => .error _ _
  | [v] => exact (Makes.any _).bind fun _ _ => (Makes.any _).bind fun _ _ => .error _ _
  | [v, v'] =>
      exact (Makes.any _).bind fun status _ => (status.makes_decode v').bind fun o h =>
        (Makes.any _).bind fun _ _ => .ok h
  | v :: v' :: _ :: _ =>
      exact (Makes.any _).bind fun status _ => (status.makes_decode v').bind fun _ _ => .error _ _

theorem makes_decoder (found : Json.Found) : Makes (decoder found) Outcome.Fits := by
  unfold decoder
  split
  next => exact makes_ofMembers _ _
  next => exact makes_ofItems _ _ _
  next => exact .error _ _

end Outcome

namespace Location

/-- Whether the numbers in a field fit. -/
def Field.Holds : (f : Field) → f.Value → Prop
  | file, _ => True
  | lineNr, n | startLine, n | startColumn, n | endLine, n | endColumn, n => IsWord n

theorem makes_decoder (found : Json.Found) : Makes (decoder found) Fits := by
  refine Json.Shape.makes_fields (s := shape) (P := Field.Holds) ?_
    (fun _ _ missing => nomatch missing) (fun _ need => (need .file).bind fun _ _ =>
      (need .lineNr).bind fun _ lineNr => (need .startLine).bind fun _ startLine =>
        (need .startColumn).bind fun _ startColumn => (need .endLine).bind fun _ endLine =>
          (need .endColumn).bind fun _ endColumn =>
            .ok ⟨lineNr, startLine, startColumn, endLine, endColumn⟩) found
  intro f
  cases f with
  | file => exact fun _ => .any _
  | lineNr | startLine | startColumn | endLine | endColumn => exact Json.makes_natural _ _

end Location

namespace PromptRecord

/-- Whether the numbers in a field fit. -/
def Field.Holds : (f : Field) → f.Value → Prop
  | id, n => IsWord n
  | text, _ => True
  | location, l => l.Fits
  | outcome, o => o.Fits

theorem makes_decoder (found : Json.Found) : Makes (decoder found) Fits := by
  refine Json.Shape.makes_fields (s := shape) (P := Field.Holds) ?_
    (fun _ _ missing => nomatch missing) (fun _ need => (need .id).bind fun _ id =>
      (need .text).bind fun _ _ => (need .location).bind fun _ location =>
        (need .outcome).bind fun _ outcome => .ok ⟨id, location, outcome⟩) found
  intro f
  cases f with
  | id => exact Json.makes_natural _ _
  | text => exact fun _ => .any _
  | location => exact Location.makes_decoder
  | outcome => exact Outcome.makes_decoder

end PromptRecord

/-! ## Summaries -/

namespace Json

variable {α : Type} {d : Decoder α} {P : α → Prop}

/-- What a list is read as holds of each item what is so of all that the items are read as. -/
theorem makes_listOf (each : ∀ found, Makes (d found) P) (found : Found) :
    Makes (listOf d found) fun xs => ∀ x ∈ xs, P x := by
  have all (items : List Found) : Makes (decodeAll d items) fun xs => ∀ x ∈ xs, P x := by
    induction items with
    | nil => exact .ok (by simp)
    | cons v vs ih =>
        exact (each v).bind fun x hx => ih.bind fun xs hxs => .ok (List.forall_mem_cons.2 ⟨hx, hxs⟩)
  unfold listOf
  split
  next => exact (all _).bind fun _ hxs => (Makes.any _).bind fun _ _ => .ok hxs
  next => exact .error _ _

theorem makes_nullable (each : ∀ found, Makes (d found) P) (found : Found) :
    Makes (nullable d found) fun x? => ∀ x, x? = some x → P x := by
  unfold nullable
  split
  next => exact .ok (by simp)
  next => exact .map fun a made x same => Option.some.inj same ▸ each _ a made

end Json

namespace Config

/-- Whether a number in a field fits. -/
def Field.Holds : (f : Field) → f.Value → Prop
  | .modelName, _ | .temperature, _ | .template, _ | .systemPrompt, _ | .mutate, _ | .ignore, _
  | .benchmark, _ | .mutateOnly, _ => True
  | .maxTokens, n | .nrAttempts, n => n ≤ 0xFFFFFFFF
  | .maxNrPrompts, n | .rateLimit, n | .maxLinesInPlaceholder, n => IsWord n
  | .mutateOnlyLines, lines => ∀ ns, lines = some ns → ∀ n ∈ ns, IsWord n

/-- Whatever configuration is read, its numbers fit. -/
theorem makes_decoder (found : Json.Found) : Makes (decoder found) NumbersFit := by
  refine Json.Shape.makes_fields (s := shape) (P := Field.Holds) ?_ ?_ (fun _ need =>
    (need .modelName).bind fun _ _ => (need .temperature).bind fun _ _ =>
      (need .maxTokens).bind fun _ maxTokens => (need .maxNrPrompts).bind fun _ maxNrPrompts =>
        (need .rateLimit).bind fun _ rateLimit => (need .nrAttempts).bind fun _ nrAttempts =>
          (need .template).bind fun _ _ => (need .systemPrompt).bind fun _ _ =>
            (need .mutate).bind fun _ _ => (need .ignore).bind fun _ _ =>
              (need .benchmark).bind fun _ _ => (need .mutateOnly).bind fun _ _ =>
                (need .mutateOnlyLines).bind fun _ mutateOnlyLines =>
                  (need .maxLinesInPlaceholder).bind fun _ maxLinesInPlaceholder =>
                    .ok ⟨maxTokens, maxNrPrompts, rateLimit, nrAttempts, mutateOnlyLines,
                      maxLinesInPlaceholder⟩) found
  · intro f
    cases f with
    | maxTokens | nrAttempts | maxNrPrompts | rateLimit | maxLinesInPlaceholder =>
        exact Json.makes_natural _ _
    | mutateOnlyLines => exact Json.makes_nullable (Json.makes_listOf (Json.makes_natural _ _))
    | _ => exact fun _ => .any _
  · intro f x fallback
    cases f with
    | mutateOnlyLines =>
        obtain rfl := Option.some.inj fallback
        exact fun ns same => nomatch same
    | maxLinesInPlaceholder =>
        obtain rfl := Option.some.inj fallback
        exact (by decide : (1 : Nat) ≤ 0xFFFFFFFFFFFFFFFF)
    | maxTokens | nrAttempts | maxNrPrompts | rateLimit => exact nomatch fallback
    | _ => exact trivial

end Config

namespace RunSummary

/-- Whether the numbers of a configuration in a field fit. -/
def Field.Holds : (f : Field) → f.Value → Prop
  | .config, c => c.NumbersFit
  | _, _ => True

/-- Whatever summary is read, the numbers of its configuration fit. -/
theorem makes_decoder (found : Json.Found) : Makes (decoder found) (·.config.NumbersFit) := by
  refine Json.Shape.makes_fields (s := shape) (P := Field.Holds) ?_ ?_ (fun _ need =>
    (need .nrPrompts).bind fun _ _ => (need .nrCandidates).bind fun _ _ =>
      (need .nrInvalid).bind fun _ _ => (need .nrIdentical).bind fun _ _ =>
        (need .nrDuplicate).bind fun _ _ => (need .nrMutants).bind fun _ _ =>
          (need .nrSkipped).bind fun _ _ => (need .nrQueryFailed).bind fun _ _ =>
            (need .nrReplayMissing).bind fun _ _ => (need .promptTokens).bind fun _ _ =>
              (need .completionTokens).bind fun _ _ => (need .totalTokens).bind fun _ _ =>
                (need .nrRetries).bind fun _ _ => (need .nrFailures).bind fun _ _ =>
                  (need .config).bind fun _ config => .ok (by exact config)) found
  · intro f
    cases f with
    | config => exact Config.makes_decoder
    | _ => exact fun _ => .any _
  · intro f x fallback
    cases f with
    | config => exact nomatch fallback
    | _ => exact trivial

end RunSummary

end Mutagenesis
