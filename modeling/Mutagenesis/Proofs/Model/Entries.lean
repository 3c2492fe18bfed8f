import Mutagenesis.Model.Cache
import Mutagenesis.Proofs.Json.Records

/-!
# Written entries

A stored entry reads back with the fingerprint and the answer that were written. Its options are
kept for inspection only: their doubles need not read back, as long as the reader accepts them.
-/
namespace Mutagenesis

open Json (ReadsAs Written)

namespace Json

variable {x y : Binary64}

/-- The double that is read from the written form of a double, or the double itself if none is. -/
def asRead (x : Binary64) : Binary64 :=
  (decode double (String.ofList x.dataText)).toOption.getD x

/-- Whether the reader accepts the written form of a double. -/
def IsAccepted (x : Binary64) : Prop := ∃ y, ReadsAs x y

theorem IsAccepted.readsAs (h : IsAccepted x) : ReadsAs x (asRead x) := by
  obtain ⟨y, h⟩ := h
  have same : asRead x = y := by
    rw [asRead, show decode double (String.ofList x.dataText) = .ok y from h]
    rfl
  exact same ▸ h

end Json

namespace Options

/-- Whether options can be read: the number of tokens fits in thirty-two bits, and the reader
accepts the doubles that are given. -/
structure Fits (o : Options) : Prop where
  maxTokens : ∀ n ∈ o.maxTokens, n ≤ 0xFFFFFFFF
  temperature : ∀ x ∈ o.temperature, Json.IsAccepted x
  topP : ∀ x ∈ o.topP, Json.IsAccepted x

/-- The options that are read from the written form. -/
def asRead (o : Options) : Options :=
  { o with temperature := o.temperature.map Json.asRead, topP := o.topP.map Json.asRead }

/-- The value that is read for a field. -/
def value (o : Options) : (f : Field) → f.Value
  | .maxTokens => o.maxTokens
  | .temperature => o.temperature.map Json.asRead
  | .topP => o.topP.map Json.asRead
  | .providerOrder => o.providerOrder

/-- What is written for a field, if it is given. -/
def json? (o : Options) : Field → Option Json
  | .maxTokens => o.maxTokens.map .nat
  | .temperature => o.temperature.map .float
  | .topP => o.topP.map .float
  | .providerOrder => o.providerOrder.map .strs

theorem toJson_eq_fields (o : Options) :
    o.toJson = .obj (shape.fields.filterMap fun f =>
      (o.json? f).map fun v => (shape.name f, v)) := by
  obtain ⟨maxTokens, temperature, topP, providerOrder⟩ := o
  cases maxTokens <;> cases temperature <;> cases topP <;> cases providerOrder <;> rfl

/-- A given option is written as its value. -/
theorem written_field {o : Options} (h : o.Fits) (f : Field) (v : Json)
    (given : o.json? f = some v) : Written f.decoder v (o.value f) := by
  have double : ∀ {x : Binary64}, Json.IsAccepted x →
      Written (Json.nullable Json.double) (.float x) (some (Json.asRead x)) := fun accepted =>
    Json.written_nullable (Json.written_double accepted.readsAs) (by simp)
  cases f with
  | maxTokens =>
      obtain ⟨n, hn, rfl⟩ := Option.map_eq_some_iff.1 given
      rw [value, hn]
      exact Json.written_nullable (Json.written_u32 (h.maxTokens n hn)) (by simp [Json.nat])
  | temperature =>
      obtain ⟨x, hx, rfl⟩ := Option.map_eq_some_iff.1 given
      rw [value, hx]
      exact double (h.temperature x hx)
  | topP =>
      obtain ⟨x, hx, rfl⟩ := Option.map_eq_some_iff.1 given
      rw [value, hx]
      exact double (h.topP x hx)
  | providerOrder =>
      obtain ⟨ps, hps, rfl⟩ := Option.map_eq_some_iff.1 given
      rw [value, hps]
      exact Json.written_nullable (Json.written_listOf fun s _ => Json.written_string s)
        (by simp [Json.strs])

theorem written {o : Options} (h : o.Fits) : Written decoder o.toJson o.asRead := by
  rw [toJson_eq_fields]
  refine Json.Shape.written_fields (s := shape) o.value o.json? (by intro f; cases f <;> rfl)
    (by decide) (written_field h) ?_ ?_
  · intro f absent
    cases f <;> simp only [shape, Field.fallback, value, Option.map_eq_none_iff.1 absent] <;> rfl
  · intro found d draft values
    have all (f : Field) : f ∈ [Field.maxTokens, .temperature, .topP, .providerOrder] := by
      cases f <;> decide
    have maxTokens := values _ (all .maxTokens)
    have temperature := values _ (all .temperature)
    have topP := values _ (all .topP)
    have providerOrder := values _ (all .providerOrder)
    simp only [decoder, draft, maxTokens, temperature, topP, providerOrder, bind, Except.bind, pure,
      Except.pure]
    rfl

end Options

namespace CacheEntry

def rows (e : CacheEntry) : List shape.Row :=
  [⟨Field.fingerprint, e.fingerprint, .str e.fingerprint⟩, ⟨Field.model, e.model, .str e.model⟩,
    ⟨Field.prompt, e.prompt, .str e.prompt⟩,
    ⟨Field.options, e.options.asRead, e.options.toJson⟩, ⟨Field.answer, e.answer, e.answer.toJson⟩]

/-- An entry reads back, its options as they are read. -/
theorem written {e : CacheEntry} (options : e.options.Fits) (usage : e.answer.usage.Fits) :
    Written decoder e.toJson { e with options := e.options.asRead } := by
  refine Json.Shape.written_rows (s := shape) e.rows (by intro f; cases f <;> rfl) ?_ ?_ ?_
  · simp only [rows, List.forall_mem_cons]
    exact ⟨Json.written_string _, Json.written_string _, Json.written_string _,
      Options.written options, Answer.written usage, by simp⟩
  · simp only [rows, List.map_cons, List.map_nil]
    decide
  · intro found d draft values _
    simp only [rows, List.forall_mem_cons] at values
    obtain ⟨fingerprint, model, prompt, options, answer, -⟩ := values
    simp only [decoder, draft, fingerprint, model, prompt, options, answer, bind, Except.bind, pure,
      Except.pure]

end CacheEntry

end Mutagenesis
