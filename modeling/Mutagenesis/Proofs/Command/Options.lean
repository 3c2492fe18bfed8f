import Mathlib.Data.Option.Basic
import Mutagenesis.Command.Basic
import Mutagenesis.Proofs.Config.LineList
import Mutagenesis.Proofs.Json.Bounds

/-!
# Options that are taken

Whatever command line is read, each option has a value of its kind. So the numbers of the
configuration that a command asks for fit the words that hold them.
-/
namespace Mutagenesis

namespace Command

variable {rules : List OptionRule} {s : Scanned}

/-- Whether each value that was taken is one of its option. -/
def Scanned.Keeps (rules : List OptionRule) (s : Scanned) : Prop :=
  ∀ x ∈ s.values, ∃ rule ∈ rules, rule.name = x.1 ∧
    ∀ kind, rule.kind = some kind → kind.accepts x.2 = true

/-- Whether the options that go by a letter are switches. -/
def HasLetterSwitches (rules : List OptionRule) : Prop :=
  ∀ rule ∈ rules, rule.letter ≠ none → rule.kind = none

theorem makes_give (h : s.Keeps rules) {rule : OptionRule} (listed : rule ∈ rules) {value : String}
    (accepted : ∀ kind, rule.kind = some kind → kind.accepts value = true) :
    Makes (s.give rule.name value) (Scanned.Keeps rules) := by
  unfold Scanned.give
  split
  next => exact .error _ _
  next =>
    refine .ok fun x hx => ?_
    obtain hx | hx := List.mem_append.1 hx
    · exact h x hx
    · obtain rfl := List.mem_singleton.1 hx
      exact ⟨rule, listed, rfl, accepted⟩

theorem makes_takeValue (h : s.Keeps rules) {rule : OptionRule} (listed : rule ∈ rules)
    {kind : ValueKind} (isKind : rule.kind = some kind) (value : String) :
    Makes (takeValue s rule kind value) (Scanned.Keeps rules) := by
  unfold takeValue
  split
  next accepted =>
    refine makes_give h listed fun kind' isKind' => ?_
    obtain rfl : kind = kind' := Option.some.inj (isKind.symm.trans isKind')
    exact accepted
  next => exact .error _ _

theorem makes_takeSwitch (h : s.Keeps rules) {rule : OptionRule} (listed : rule ∈ rules)
    (isSwitch : rule.kind = none) (value : Option String) :
    Makes (takeSwitch s rule.name value) (Scanned.Keeps rules) := by
  unfold takeSwitch
  split
  next => exact makes_give h listed fun kind isKind => nomatch isSwitch.symm.trans isKind
  next => exact .error _ _

theorem makes_takeLetters (letters : HasLetterSwitches rules) (h : s.Keeps rules)
    (cs : List Char) : Makes (takeLetters rules s cs) (Scanned.Keeps rules) := by
  induction cs generalizing s with
  | nil => exact .ok h
  | cons c cs ih =>
      unfold takeLetters
      split
      next rule found =>
        have listed := List.mem_of_find?_eq_some found
        have isSwitch : rule.kind = none := by
          refine letters rule listed ?_
          have := List.find?_some found
          simp_all
        exact (makes_give h listed fun kind isKind => nomatch isSwitch.symm.trans isKind).bind
          fun s hs => ih hs
      next =>
        split
        all_goals exact .error _ _

theorem makes_operand (h : s.Keeps rules) (value : String) :
    Makes (s.operand value) (Scanned.Keeps rules) := by
  unfold Scanned.operand
  split
  next => exact .ok h
  next => exact .error _ _

/-- What each step keeps, steps in turn keep. -/
theorem makes_foldlM {ε α β : Type} {P : β → Prop} {f : β → α → Except ε β}
    (step : ∀ b, P b → ∀ a, Makes (f b a) P) {b : β} (h : P b) (as : List α) :
    Makes (as.foldlM f b) P := by
  induction as generalizing b with
  | nil => exact .ok h
  | cons a as ih =>
      rw [List.foldlM_cons]
      exact (step b h a).bind fun b hb => ih hb

theorem makes_scan (letters : HasLetterSwitches rules) (h : s.Keeps rules) (args : List String) :
    Makes (scan rules s args) (Scanned.Keeps rules) := by
  fun_induction scan rules s args with
  | case1 => exact .ok h
  | case2 s more => exact makes_foldlM (fun _ hs value => makes_operand hs value) h more
  | case3 | case4 | case7 => exact .error _ _
  | case5 s arg more _ name rule found value isSwitch _ ih =>
      exact (makes_takeSwitch h (List.mem_of_find?_eq_some found) isSwitch value).bind ih
  | case6 s arg more _ name rule found kind value isKind _ ih =>
      exact (makes_takeValue h (List.mem_of_find?_eq_some found) isKind value).bind ih
  | case8 => exact .error _ _
  | case9 s arg _ name rule found kind isKind value more rest _ _ ih =>
      exact (makes_takeValue h (List.mem_of_find?_eq_some found) isKind value).bind ih
  | case10 s arg more _ _ c cs _ ih => exact (makes_takeLetters letters h (c :: cs)).bind ih
  | case11 s arg more _ _ _ ih => exact (makes_operand h arg).bind ih

theorem makes_takeVariable (env : List (String × String)) (h : s.Keeps rules) {rule : OptionRule}
    (listed : rule ∈ rules) : Makes (takeVariable env s rule) (Scanned.Keeps rules) := by
  unfold takeVariable
  split
  next => exact .ok h
  next =>
    split
    next kind value isKind _ => exact makes_takeValue h listed isKind value
    next => exact .ok h

/-- What is scanned keeps to the rules, and so does what the environment adds. -/
theorem makes_scanWith (letters : HasLetterSwitches rules) (env : List (String × String))
    (args : List String) : Makes (scanWith rules env args) fun x => x.2.Keeps rules := by
  have filled (more : List OptionRule) (listed : ∀ rule ∈ more, rule ∈ rules) {s : Scanned}
      (h : s.Keeps rules) : Makes (more.foldlM (takeVariable env) s) (Scanned.Keeps rules) := by
    induction more generalizing s with
    | nil => exact .ok h
    | cons rule more ih =>
        rw [List.forall_mem_cons] at listed
        rw [List.foldlM_cons]
        exact (makes_takeVariable env h listed.1).bind fun s hs => ih listed.2 hs
  have empty : Scanned.empty.Keeps rules := fun x hx => nomatch hx
  refine (makes_scan letters empty args).bind fun s hs =>
    (filled rules (fun _ listed => listed) hs).bind fun s hs => ?_
  split
  next => exact .ok hs
  next => exact .error _ _

/-! ## The numbers that a command asks for -/

/-- The value of an option is of the kind of the option. -/
theorem accepts_of_lookup {name value : String} {kind : ValueKind} (h : s.Keeps rules)
    (isKind : ∀ rule ∈ rules, rule.name = name → rule.kind = some kind)
    (found : s.values.lookup name = some value) : kind.accepts value = true := by
  obtain ⟨before, after, split, -⟩ := List.lookup_eq_some_iff.1 found
  obtain ⟨rule, listed, named, accepted⟩ := h (name, value) (by simp [split])
  exact accepted kind (isKind rule listed named)

theorem readU32?_le {text : String} {n : Nat} (h : readU32? text = some n) : n ≤ 0xFFFFFFFF := by
  unfold readU32? at h
  split at h
  next =>
    obtain ⟨m, -, h⟩ := Option.bind_eq_some_iff.1 h
    split at h
    next => exact Option.some.inj h ▸ Nat.zero_le _
    next => simp at h
  next => exact (Text.unsigned?_eq_some_iff.1 h).2

theorem readU64?_le {text : String} {n : Nat} (h : readU64? text = some n) :
    n ≤ 0xFFFFFFFFFFFFFFFF := (Text.unsigned?_eq_some_iff.1 h).2

/-- The number that the value of an option writes, of at most sixty-four bits. -/
theorem number_le {name : String} {default : Nat} (small : default ≤ 0xFFFFFFFFFFFFFFFF) :
    ((s.values.lookup name).bind fun v => readU32? v <|> readU64? v).getD default ≤
      0xFFFFFFFFFFFFFFFF := by
  cases found : (s.values.lookup name).bind fun v => readU32? v <|> readU64? v with
  | none => exact small
  | some n =>
      obtain ⟨v, -, hn⟩ := Option.bind_eq_some_iff.1 found
      obtain h | ⟨-, h⟩ := (Option.orElse_eq_some ..).1 hn
      · exact (readU32?_le h).trans (by decide)
      · exact readU64?_le h

/-- One of at most thirty-two bits, if the option has such a value. -/
theorem number_le_of_u32 {name : String} {default : Nat} (small : default ≤ 0xFFFFFFFF)
    (h : s.Keeps rules) (isKind : ∀ rule ∈ rules, rule.name = name → rule.kind = some .u32) :
    ((s.values.lookup name).bind fun v => readU32? v <|> readU64? v).getD default ≤
      0xFFFFFFFF := by
  cases given : s.values.lookup name with
  | none => exact small
  | some v =>
      obtain ⟨n, hn⟩ := Option.isSome_iff_exists.1 (accepts_of_lookup h isKind given)
      simpa [hn] using readU32?_le hn

theorem numbersFit_configOf (h : s.Keeps generateRules) : (configOf s).NumbersFit where
  maxTokens := number_le_of_u32 (by decide) h (by decide)
  maxNrPrompts := number_le (by decide)
  rateLimit := number_le (by decide)
  nrAttempts := number_le_of_u32 (by decide) h (by decide)
  mutateOnlyLines := fun _ absent => nomatch absent
  maxLinesInPlaceholder := number_le (by decide)

theorem letterSwitches_generateRules : HasLetterSwitches generateRules := by
  unfold HasLetterSwitches
  decide

/-- Whatever command to generate mutants is read, the numbers of its configuration fit. -/
theorem makes_read (env : List (String × String)) (seen : Bool) (args : List String) :
    Makes (read env seen args) fun c => ∀ o, c = .generate o → o.config.NumbersFit := by
  fun_induction read env seen args with
  | case1 | case4 | case5 | case6 | case7 | case10 => exact .error _ _
  | case2 seen more =>
      refine (makes_scanWith letterSwitches_generateRules env more).bind fun x hx => .ok ?_
      rintro o ⟨⟩
      exact numbersFit_configOf hx
  | case3 => exact (Makes.any _).bind fun _ _ => .ok fun o same => nomatch same
  | case8 _ _ _ _ _ _ _ _ ih => exact ih
  | case9 _ _ _ _ _ _ _ _ _ _ _ _ ih => exact (Makes.any _).bind fun seen _ => ih seen

end Command

theorem Config.makes_parseLines (text : String) :
    Makes (Config.parseLines text) fun lines => ∀ line ∈ lines, line ≤ 0xFFFFFFFFFFFFFFFF := by
  intro lines h line hline
  obtain ⟨item, -, isLine⟩ := exists_of_forall₂ (Config.parseLines_eq_ok_iff.1 h) hline
  exact isLine.fits

/-- With the lines that are asked for, the numbers of a configuration still fit. -/
theorem GenerateOrder.makes_fullConfig {o : GenerateOrder} (fits : o.config.NumbersFit) :
    Makes o.fullConfig Config.NumbersFit := by
  have lines : Makes (o.lineList.mapM Config.parseLines) fun lines? =>
      ∀ lines, lines? = some lines → ∀ line ∈ lines, line ≤ 0xFFFFFFFFFFFFFFFF := by
    cases o.lineList with
    | none => exact .ok fun lines absent => nomatch absent
    | some text =>
        exact (Config.makes_parseLines text).bind fun ns small =>
          .ok fun lines same => Option.some.inj same ▸ small
  exact lines.bind fun lines? small => .ok { fits with mutateOnlyLines := small }

end Mutagenesis
