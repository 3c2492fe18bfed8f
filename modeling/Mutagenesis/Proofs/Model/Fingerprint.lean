import Mutagenesis.Model.Cache
import Mutagenesis.Proofs.Json.Strings
import Mutagenesis.Proofs.Model.Requests
import Mutagenesis.Proofs.Number.Text

/-!
# Fingerprints tell requests apart

The text that a fingerprint is made of is read from its head: each member ends where a quote closes
it or a comma follows it. So two queries have the same text only when every part of it is the same,
and these parts are all that is sent for a prompt, the preferred providers apart.
-/
namespace Mutagenesis

/-! ## Texts that end by themselves -/

namespace Json

/-- The text of a string shows where it ends. -/
theorem stringText_append_inj {s t : String} {cs ds : List Char}
    (h : stringText s ++ cs = stringText t ++ ds) : s = t ∧ cs = ds := by
  obtain ⟨p, hs⟩ := readString_stringText s cs 0
  obtain ⟨q, ht⟩ := readString_stringText t ds 0
  rw [h, ht] at hs
  simp only [Prod.mk.injEq, Except.ok.injEq, Text.Place.mk.injEq] at hs
  exact ⟨hs.1.symm, hs.2.1.symm⟩

/-- What holds no comma ends at the first one. -/
theorem comma_append_inj {cs ds more other : List Char} (hc : ',' ∉ cs) (hd : ',' ∉ ds)
    (h : cs ++ ',' :: more = ds ++ ',' :: other) : cs = ds ∧ more = other := by
  induction cs generalizing ds with
  | nil =>
      cases ds with
      | nil => exact ⟨rfl, (List.cons.inj h).2⟩
      | cons d ds => exact absurd (List.cons.inj h).1 fun same => hd (same ▸ List.mem_cons_self)
  | cons c cs ih =>
      cases ds with
      | nil => exact absurd (List.cons.inj h).1 fun same => hc (same ▸ List.mem_cons_self)
      | cons d ds =>
          obtain ⟨rfl, tails⟩ := List.cons.inj h
          obtain ⟨rfl, rfl⟩ := ih (fun m => hc (List.mem_cons_of_mem c m))
            (fun m => hd (List.mem_cons_of_mem c m)) tails
          exact ⟨rfl, rfl⟩

theorem comma_notMem_dataText (x : Binary64) : ',' ∉ x.dataText := by
  intro h
  have marks := mem_dataText h
  revert marks
  decide

theorem comma_notMem_numeral (n : Nat) : ',' ∉ Text.numeral n := by
  intro h
  have digit := Text.isDigit_of_mem_numeral h
  revert digit
  decide

/-- Whether the texts of two values show where they end when a comma follows. -/
def EndAtComma (v w : Json) : Prop :=
  ∀ {more other : List Char}, v.compact ++ ',' :: more = w.compact ++ ',' :: other →
    v.compact = w.compact ∧ more = other

theorem endAtComma_str (s t : String) : EndAtComma (.str s) (.str t) := by
  intro more other h
  obtain ⟨rfl, tails⟩ := stringText_append_inj h
  exact ⟨rfl, (List.cons.inj tails).2⟩

theorem endAtComma_float (x y : Binary64) : EndAtComma (.float x) (.float y) := by
  intro more other h
  exact comma_append_inj (comma_notMem_dataText x) (comma_notMem_dataText y) h

theorem compact_nat (n : Nat) : (Json.nat n).compact = Text.numeral n := by
  simp [Json.nat, compact, leafText, intText]

theorem endAtComma_nat (m n : Nat) : EndAtComma (.nat m) (.nat n) := by
  intro more other h
  rw [compact_nat, compact_nat] at h ⊢
  exact comma_append_inj (comma_notMem_numeral m) (comma_notMem_numeral n) h

theorem compact_str_inj {s t : String} (h : (Json.str s).compact = (Json.str t).compact) :
    s = t := by
  have texts : stringText s ++ [] = stringText t ++ [] := congrArg (· ++ []) h
  exact (stringText_append_inj texts).1

/-- Members of the same name with the same text have values with the same text, and what follows
them is the same. -/
theorem compactMembers_inj {name : String} {v w : Json} {m n : String × Json}
    {ms ns : List (String × Json)} (ends : EndAtComma v w)
    (h : compactMembers ((name, v) :: m :: ms) = compactMembers ((name, w) :: n :: ns)) :
    v.compact = w.compact ∧ compactMembers (m :: ms) = compactMembers (n :: ns) := by
  simp only [compactMembers, List.append_assoc, List.append_cancel_left_eq, List.cons_append,
    List.cons.injEq, true_and] at h
  exact ends h

end Json

/-! ## What a fingerprint depends on -/

/-- A request without the providers it prefers. -/
def Request.plain (r : Request) : Request := { r with providerOrder := none }

/-- Whether the floating-point parameters are finite. -/
structure Sampling.IsFinite (s : Sampling) : Prop where
  temperature : s.temperature.isFinite = true
  topP : s.topP.isFinite = true

section

variable {p q : Profile} {prompt other : String} {options others : Options}

/-- Queries for which the same is sent, the preferred providers apart, agree in what their
fingerprints are made of, and conversely. -/
theorem fingerprintInput_line_inj (hp : (options.resolve p).IsFinite)
    (hq : (others.resolve q).IsFinite) :
    (fingerprintInput p prompt options).line = (fingerprintInput q other others).line ↔
      (Request.ofPrompt p prompt options).plain = (Request.ofPrompt q other others).plain := by
  constructor
  · intro h
    have text := String.ofList_injective h
    simp only [fingerprintInput, Json.compact, List.cons.injEq, true_and,
      List.append_cancel_right_eq] at text
    obtain ⟨name, text⟩ := Json.compactMembers_inj (Json.endAtComma_str _ _) text
    obtain ⟨context, text⟩ := Json.compactMembers_inj (Json.endAtComma_str _ _) text
    obtain ⟨prompt, text⟩ := Json.compactMembers_inj (Json.endAtComma_str _ _) text
    obtain ⟨temperature, text⟩ := Json.compactMembers_inj (Json.endAtComma_float _ _) text
    obtain ⟨maxTokens, text⟩ := Json.compactMembers_inj (Json.endAtComma_nat _ _) text
    have topP : (options.resolve p).topP.dataText = (others.resolve q).topP.dataText := by
      simpa [Json.compactMembers, Json.compact, Json.leafText] using text
    rw [Json.compact_nat, Json.compact_nat] at maxTokens
    have sampling : options.resolve p = others.resolve q := by
      rw [Sampling.mk.injEq]
      exact ⟨Text.numeral_injective maxTokens,
        Binary64.dataText_injective hp.temperature hq.temperature temperature,
        Binary64.dataText_injective hp.topP hq.topP topP⟩
    simp only [Request.plain, Request.ofPrompt, Json.compact_str_inj name,
      Json.compact_str_inj context, Json.compact_str_inj prompt, sampling]
  · intro h
    simp only [Request.plain, Request.ofPrompt, Request.mk.injEq, List.cons.injEq,
      Message.mk.injEq, true_and, and_true] at h
    obtain ⟨name, ⟨context, prompt⟩, sampling⟩ := h
    simp only [fingerprintInput, name, context, prompt, sampling]

/-- Two messages that have different digests unless they are the same. -/
def Sha256.Distinguishes (a b : Bytes) : Prop := digest a = digest b → a = b

/-- The bytes of which a fingerprint is the digest. -/
def fingerprintBytes (p : Profile) (prompt : String) (options : Options) : Bytes :=
  Text.bytes (fingerprintInput p prompt options).line

end

namespace Model

variable {τ τ' : Type}

/-- Queries of any two live models have the same key exactly when the same requests are sent for
them, the preferred providers apart: the bytes that are digested are the same exactly then, and so
are the fingerprints unless the digests of these bytes collide. -/
theorem sameKey_iff_sameRequest (c c' : Config) (context context' : String) (t t' : Throttle)
    (transport : Transport τ) (transport' : Transport τ') (prompt prompt' : String)
    (options options' : Options) (s : Files.World × Live τ) (s' : Files.World × Live τ')
    (finite : (options.resolve (c.profile context)).IsFinite)
    (finite' : (options'.resolve (c'.profile context')).IsFinite) :
    let m := live c context t transport
    let m' := live c' context' t' transport'
    requests c context t transport prompt options s ≠ [] ∧
      requests c' context' t' transport' prompt' options' s' ≠ [] ∧
      ∀ sent ∈ requests c context t transport prompt options s,
        ∀ sent' ∈ requests c' context' t' transport' prompt' options' s',
          (fingerprintBytes m.profile prompt options =
              fingerprintBytes m'.profile prompt' options' ↔ sent.plain = sent'.plain) ∧
          (Sha256.Distinguishes (fingerprintBytes m.profile prompt options)
              (fingerprintBytes m'.profile prompt' options') →
            (fingerprint m.profile prompt options = fingerprint m'.profile prompt' options' ↔
              sent.plain = sent'.plain)) := by
  intro m m'
  obtain ⟨k, least, -, hk⟩ := requests_eq c context t transport prompt options s
  obtain ⟨k', least', -, hk'⟩ := requests_eq c' context' t' transport' prompt' options' s'
  have sentAny : ∀ {k : Nat} {r : Request}, 1 ≤ k → List.replicate k r ≠ [] := by
    intro k r hk none
    rw [List.replicate_eq_nil_iff] at none
    omega
  rw [hk, hk']
  refine ⟨sentAny least, sentAny least', ?_⟩
  intro sent hsent sent' hsent'
  obtain rfl := List.eq_of_mem_replicate hsent
  obtain rfl := List.eq_of_mem_replicate hsent'
  have texts : fingerprintBytes m.profile prompt options =
      fingerprintBytes m'.profile prompt' options' ↔ _ :=
    ⟨Text.bytes_injective, congrArg Text.bytes⟩
  have bytes := texts.trans (fingerprintInput_line_inj finite finite')
  exact ⟨bytes, fun distinguishes => Iff.trans ⟨distinguishes, congrArg Sha256.digest⟩ bytes⟩

/-- Parameters that are given and those that come from the configuration make the same key, whatever
providers are preferred, and texts that only quotes would tell apart make different ones. -/
theorem sameKey_of_given_not_of_quoted :
    let silent : Transport Unit := ⟨fun _ _ side => (.error (.status 500 ""), 0, side)⟩
    let s : Files.World × Live Unit := (⟨[], []⟩, .start () [])
    let sent (context prompt : String) (options : Options) : List Request :=
      requests Config.standard context .unbounded silent prompt options s
    let key (context prompt : String) (options : Options) : String :=
      fingerprint (live Config.standard context .unbounded silent).profile prompt options
    let given : Options := ⟨some 250, some .zero, some (.ofNat 1), some ["a", "b"]⟩
    key "x" "p" given = key "x" "p" .none ∧
      (∀ r ∈ sent "x" "p" given, ∀ r' ∈ sent "x" "p" .none, r ≠ r' ∧ r.plain = r'.plain) ∧
      key "a\",\"prompt\":\"b" "c" .none ≠ key "a" "b\",\"prompt\":\"c" .none := by
  intro silent s sent key given
  have zero : Binary64.zero.isFinite = true := by decide
  have one : (Binary64.ofNat 1).isFinite = true := by decide
  have finite : ∀ context, (Options.none.resolve (Config.standard.profile context)).IsFinite :=
    fun _ => ⟨zero, one⟩
  have asked : ∀ {context prompt options r}, r ∈ sent context prompt options →
      r = Request.ofPrompt (Config.standard.profile context) prompt options := by
    intro context prompt options r hr
    obtain ⟨k, -, -, hk⟩ := requests_eq Config.standard context .unbounded silent prompt options s
    simp only [sent, hk] at hr
    exact List.eq_of_mem_replicate hr
  obtain ⟨some₁, some₂, same⟩ := sameKey_iff_sameRequest Config.standard Config.standard "x" "x"
    .unbounded .unbounded silent silent "p" "p" given .none s s ⟨zero, one⟩ (finite _)
  obtain ⟨some₃, some₄, differ⟩ := sameKey_iff_sameRequest Config.standard Config.standard
    "a\",\"prompt\":\"b" "a" .unbounded .unbounded silent silent "c" "b\",\"prompt\":\"c" .none
    .none s s (finite _) (finite _)
  refine ⟨?_, ?_, ?_⟩
  · obtain ⟨r, hr⟩ := List.exists_mem_of_ne_nil _ some₁
    obtain ⟨r', hr'⟩ := List.exists_mem_of_ne_nil _ some₂
    refine congrArg Sha256.digest ((same r hr r' hr').1.2 ?_)
    rw [asked hr, asked hr']
    rfl
  · intro r hr r' hr'
    rw [asked hr, asked hr']
    exact ⟨by decide, rfl⟩
  · obtain ⟨r, hr⟩ := List.exists_mem_of_ne_nil _ some₃
    obtain ⟨r', hr'⟩ := List.exists_mem_of_ne_nil _ some₄
    refine ((differ r hr r' hr').2 ?_).not.2 ?_
    · intro collision
      exact absurd collision (by decide +kernel)
    · rw [asked hr, asked hr']
      decide

end Model

end Mutagenesis
