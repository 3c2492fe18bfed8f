import Mathlib.Data.List.Nodup
import Mutagenesis.Model.Together
import Mutagenesis.Proofs.Flight.Single

/-!
# Slots while they are needed

A slot is referred to by the map of slots and by each query that has it. The last query to leave
finds that the map alone refers to its slot, and takes it away; until then the map keeps it. So
there is a slot for a fingerprint exactly while some query of that fingerprint has taken it and not
left it, in whatever order queries take their steps.
-/
namespace Mutagenesis.Flight

open Files (World)

variable {p : Profile} {folder : Path} {s s' : State} {i : Nat} {q : Query} {move : Move}
  {stage : Stage} {slot : Nat} {key : String} {outcome : Except Failure Answer}

/-! ## Interleaved steps -/

/-- The states that queries of one cached model come to. They are made at any time and take their
steps in any order, whatever others do to the files meanwhile. -/
inductive Interleaves (p : Profile) (folder : Path) : State → Prop
  | start (w : World) (queries : List (String × Options)) : Interleaves p folder (.start w queries)
  | made {s : State} (run : Interleaves p folder s) (prompt : String) (options : Options) :
      Interleaves p folder { s with queries := s.queries ++ [⟨prompt, options, .arriving⟩] }
  | moved {s s' : State} {i : Nat} {move : Move} (run : Interleaves p folder s)
      (step : s.move? p folder i move = some s') : Interleaves p folder s'
  | changed {s : State} (run : Interleaves p folder s) (w : World) :
      Interleaves p folder { s with world := w }

section Together

variable {σ : Type} {m : Model σ} {inner : σ}

theorem Interleaves.advance (run : Interleaves p folder s) (i n : Nat) :
    Interleaves p folder (advance p folder i n s) := by
  induction n generalizing s with
  | zero => exact run
  | succ n ih =>
      rw [Flight.advance]
      split
      next => exact run
      next move _ =>
        split
        next => exact run
        next step => exact ih (run.moved step)

theorem Interleaves.takeUp (run : Interleaves m.profile folder s) (i : Nat) :
    Interleaves m.profile folder (takeUp m folder i (s, inner)).1 := by
  simp only [Flight.takeUp]
  split
  next prompt options slot hq =>
    have changed := run.changed (m.query prompt options (s.world, inner)).2.1
    apply Interleaves.advance
    cases step : State.move? m.profile folder
        { s with world := (m.query prompt options (s.world, inner)).2.1 } i
        (.reply (m.query prompt options (s.world, inner)).1) with
    | none => exact changed
    | some s' => exact changed.moved step
  next => exact run.advance i stepLimit

/-- Queries that are made together and taken up in turn take such steps. -/
theorem Interleaves.rounds (run : Interleaves m.profile folder s) (n : Nat) :
    Interleaves m.profile folder (rounds m folder n (s, inner)).1 := by
  induction n generalizing s inner with
  | zero => exact run
  | succ n ih =>
      rw [Flight.rounds]
      generalize List.range s.queries.length = order
      induction order generalizing s inner with
      | nil => exact ih run
      | cons i order again => exact again (run.takeUp i)

end Together

/-! ## References -/

namespace State

/-- The slots that queries have. -/
def taken (s : State) : List Nat := s.queries.filterMap (·.stage.slot?)

/-- The number of references to a slot: those of the map, and those of the queries that have it. -/
def references (s : State) (slot : Nat) : Nat :=
  (s.slots.map Prod.snd).count slot + s.taken.count slot

/-- Takes the slot of a fingerprint away when there is no reference to it but that of the map. -/
def release (s : State) (key : String) : State :=
  match s.slots.lookup key with
  | some slot =>
      if s.references slot = 1 then { s with slots := s.slots.filter fun x => x.1 ≠ key } else s
  | none => s

theorem isTaken_eq_true_iff : s.isTaken slot = true ↔ slot ∈ s.taken := by
  simp [isTaken, taken]

end State

/-- Whether some query of a fingerprint has a slot. -/
def State.Has (p : Profile) (s : State) (key : String) (slot : Nat) : Prop :=
  ∃ q ∈ s.queries, q.fingerprint p = key ∧ q.stage.slot? = some slot

theorem State.Has.setStage (has : s.Has p key slot) (hq : s.queries[i]? = some q)
    (keeps : q.fingerprint p = key → q.stage.slot? = some slot → stage.slot? = some slot) :
    (s.setStage i stage).Has p key slot := by
  obtain ⟨q', mem, same, taken⟩ := has
  obtain ⟨j, hq'⟩ := List.mem_iff_getElem?.1 mem
  have after := State.getElem?_setStage hq stage j
  by_cases own : j = i
  · subst own
    obtain rfl : q = q' := Option.some.inj (hq.symm.trans hq')
    rw [if_pos rfl] at after
    exact ⟨_, List.mem_of_getElem? after, same, keeps same taken⟩
  · rw [if_neg own, hq'] at after
    exact ⟨q', List.mem_of_getElem? after, same, taken⟩

/-! ## What slots are there for -/

/-- Each slot is that of one fingerprint and was made before, and some query of that fingerprint has
it. -/
structure Needed (p : Profile) (s : State) : Prop where
  slotted : Slotted p s
  keys : (s.slots.map Prod.fst).Nodup
  numbers : (s.slots.map Prod.snd).Nodup
  older : ∀ x ∈ s.slots, x.2 < s.nextSlot
  has : ∀ x ∈ s.slots, s.Has p x.1 x.2

theorem mem_of_lookup {slots : List (String × Nat)} (h : slots.lookup key = some slot) :
    (key, slot) ∈ slots := by
  obtain ⟨before, after, rfl, -⟩ := List.lookup_eq_some_iff.1 h
  simp

namespace Needed

theorem start (p : Profile) (w : World) (queries : List (String × Options)) :
    Needed p (.start w queries) :=
  ⟨.start p w queries, List.nodup_nil, List.nodup_nil, by simp [State.start], by simp [State.start]⟩

theorem inWorld (h : Needed p s) (w : World) : Needed p { s with world := w } :=
  ⟨h.slotted.inWorld w, h.keys, h.numbers, h.older, h.has⟩

/-- A query that arrives has no slot yet. -/
theorem arrive (h : Needed p s) (prompt : String) (options : Options) :
    Needed p { s with queries := s.queries ++ [⟨prompt, options, .arriving⟩] } := by
  have old : ∀ {i : Nat} {q : Query},
      (s.queries ++ [⟨prompt, options, .arriving⟩])[i]? = some q →
        s.queries[i]? = some q ∨ q.stage = .arriving := by
    intro i q hq
    rw [List.getElem?_append] at hq
    split at hq
    next => exact .inl hq
    next =>
      obtain rfl := List.mem_singleton.1 (List.mem_of_getElem? hq)
      exact .inr rfl
  refine ⟨⟨?_, ?_⟩, h.keys, h.numbers, h.older, ?_⟩
  · intro i q slot hq taken
    obtain hq | arriving := old hq
    · exact h.slotted.held i q slot hq taken
    · simp [arriving, Stage.slot?] at taken
  · intro i j q q' slot hq hq' locked locked'
    obtain hq | arriving := old hq
    · obtain hq' | arriving' := old hq'
      · exact h.slotted.single i j q q' slot hq hq' locked locked'
      · simp [arriving', Stage.locked?] at locked'
    · simp [arriving, Stage.locked?] at locked
  · intro x hx
    obtain ⟨q, mem, same, taken⟩ := h.has x hx
    exact ⟨q, List.mem_append_left _ mem, same, taken⟩

/-- One fingerprint goes with a slot. -/
theorem key_unique (h : Needed p s) {other : String} (mine : (key, slot) ∈ s.slots)
    (yours : (other, slot) ∈ s.slots) : other = key :=
  congrArg Prod.fst (List.inj_on_of_nodup_map h.numbers yours mine rfl)

/-- A query that goes on with the slot that it has, or with none. -/
theorem goOn (h : Needed p s) (hq : s.queries[i]? = some q)
    (slotted : Slotted p (s.setStage i stage)) (same : stage.slot? = q.stage.slot?) :
    Needed p (s.setStage i stage) :=
  ⟨slotted, h.keys, h.numbers, h.older,
    fun x hx => (h.has x hx).setStage hq fun _ taken => same.trans taken⟩

/-- A query takes the slot that there is, or a new one. -/
theorem take (h : Needed p s) (hq : s.queries[i]? = some q) (arriving : q.stage = .arriving)
    (slotted : Slotted p ((s.slotFor (q.fingerprint p)).2.setStage i
      (.waiting (s.slotFor (q.fingerprint p)).1))) :
    Needed p ((s.slotFor (q.fingerprint p)).2.setStage i
      (.waiting (s.slotFor (q.fingerprint p)).1)) := by
  have others : ∀ x ∈ s.slots, ∀ slot, (s.setStage i (.waiting slot)).Has p x.1 x.2 :=
    fun x hx slot => (h.has x hx).setStage hq (by simp [arriving, Stage.slot?])
  cases found : s.slots.lookup (q.fingerprint p) with
  | some slot =>
      simp only [State.slotFor, found] at slotted ⊢
      exact ⟨slotted, h.keys, h.numbers, h.older, fun x hx => others x hx slot⟩
  | none =>
      simp only [State.slotFor, found] at slotted ⊢
      have unknown : q.fingerprint p ∉ s.slots.map Prod.fst := by
        intro known
        obtain ⟨x, hx, same⟩ := List.mem_map.1 known
        simpa [same] using List.lookup_eq_none_iff.1 found x hx
      have unused : s.nextSlot ∉ s.slots.map Prod.snd := by
        intro used
        obtain ⟨x, hx, same⟩ := List.mem_map.1 used
        exact absurd (h.older x hx) (by omega)
      refine ⟨slotted, List.nodup_cons.2 ⟨unknown, h.keys⟩, List.nodup_cons.2 ⟨unused, h.numbers⟩,
        ?_, ?_⟩
      · refine List.forall_mem_cons.2 ⟨Nat.lt_succ_self _, fun x hx => ?_⟩
        exact Nat.lt_succ_of_lt (h.older x hx)
      · refine List.forall_mem_cons.2 ⟨?_, fun x hx => others x hx s.nextSlot⟩
        have mine := State.getElem?_setStage hq (.waiting s.nextSlot) i
        rw [if_pos rfl] at mine
        exact ⟨_, List.mem_of_getElem? mine, rfl, rfl⟩

/-- A query leaves its slot, and takes it away when no other has it. -/
theorem leave (h : Needed p s) (hq : s.queries[i]? = some q)
    (leaving : q.stage = .leaving slot outcome) (left : Slotted p (s.setStage i (.done outcome)))
    (slotted : Slotted p ((s.setStage i (.done outcome)).dropSlot (q.fingerprint p) slot)) :
    Needed p ((s.setStage i (.done outcome)).dropSlot (q.fingerprint p) slot) := by
  have mine : (q.fingerprint p, slot) ∈ s.slots :=
    mem_of_lookup (h.slotted.held i q slot hq (by simp [leaving, Stage.slot?]))
  have others : ∀ x ∈ s.slots, x.1 ≠ q.fingerprint p →
      (s.setStage i (.done outcome)).Has p x.1 x.2 :=
    fun x hx differ => (h.has x hx).setStage hq fun same => absurd same.symm differ
  cases kept : (s.setStage i (.done outcome)).isTaken slot with
  | true =>
      simp only [State.dropSlot, kept, if_true] at slotted ⊢
      refine ⟨slotted, h.keys, h.numbers, h.older, fun x hx => ?_⟩
      by_cases same : x.1 = q.fingerprint p
      · obtain rfl : x = (q.fingerprint p, slot) := List.inj_on_of_nodup_map h.keys hx mine same
        obtain ⟨q', mem, taken⟩ : ∃ q' ∈ (s.setStage i (.done outcome)).queries,
            q'.stage.slot? = some slot := by simpa [State.isTaken] using kept
        obtain ⟨j, hq'⟩ := List.mem_iff_getElem?.1 mem
        have yours := mem_of_lookup (left.held j q' slot hq' taken)
        exact ⟨q', mem, h.key_unique mine yours, taken⟩
      · exact others x hx same
  | false =>
      simp only [State.dropSlot, kept, Bool.false_eq_true, if_false] at slotted ⊢
      have fewer : (s.slots.filter fun x => x.1 ≠ q.fingerprint p).Sublist s.slots :=
        List.filter_sublist
      refine ⟨slotted, h.keys.sublist (fewer.map _), h.numbers.sublist (fewer.map _),
        fun x hx => h.older x (fewer.subset hx), fun x hx => ?_⟩
      obtain ⟨hx, differ⟩ := List.mem_filter.1 hx
      exact others x hx (by simpa using differ)

/-- Every step keeps to it. -/
theorem step (h : Needed p s) (hq : s.queries[i]? = some q)
    (steps : Steps p folder s i q move s') : Needed p s' := by
  have slotted := h.slotted.step hq steps
  cases steps with
  | take stage => exact h.take hq stage slotted
  | lock stage free => exact h.goOn hq slotted (by simp [stage, Stage.slot?])
  | found stage found | missed stage missing | answered stage | failed stage | unlock stage =>
      exact h.goOn hq slotted (by simp [stage, Stage.slot?])
  | store stage stored =>
      exact (h.inWorld _).goOn hq slotted (by simp [stage, Stage.slot?])
  | @leave slot outcome stage =>
      have left : Slotted p (s.setStage i (.done outcome)) :=
        h.slotted.goOn hq (by simp [Stage.slot?]) (by simp [Stage.locked?])
      exact h.leave hq stage left slotted

end Needed

theorem Interleaves.needed (run : Interleaves p folder s) : Needed p s := by
  induction run with
  | start w queries => exact .start p w queries
  | made run prompt options ih => exact ih.arrive prompt options
  | moved run step ih =>
      obtain ⟨q, hq, steps⟩ := steps_of_move? step
      exact ih.step hq steps
  | changed run w ih => exact ih.inWorld w

/-! ## Taking slots away -/

namespace Needed

/-- The slot of a query has one reference exactly when no other query has it. -/
theorem references_eq_one_iff (h : Needed p s) (mine : (key, slot) ∈ s.slots) (i : Nat)
    (stage : Stage) : (s.setStage i stage).references slot = 1 ↔
      (s.setStage i stage).isTaken slot = false := by
  have once : (s.slots.map Prod.snd).count slot = 1 :=
    List.count_eq_one_of_mem h.numbers (List.mem_map_of_mem mine)
  rw [← Bool.not_eq_true, State.isTaken_eq_true_iff, ← List.count_eq_zero, State.references,
    State.slots_setStage, once]
  omega

/-- So a query that leaves finds by the references alone whether its slot is to be taken away. -/
theorem dropSlot_eq_release (h : Needed p s) (hq : s.queries[i]? = some q)
    (leaving : q.stage = .leaving slot outcome) :
    (s.setStage i (.done outcome)).dropSlot (q.fingerprint p) slot =
      (s.setStage i (.done outcome)).release (q.fingerprint p) := by
  have held := h.slotted.held i q slot hq (by simp [leaving, Stage.slot?])
  have counts := h.references_eq_one_iff (mem_of_lookup held) i (.done outcome)
  rw [State.release, State.slots_setStage, held, State.dropSlot]
  cases taken : (s.setStage i (.done outcome)).isTaken slot with
  | true => simp [counts, taken]
  | false => simp [counts, taken]

/-- There is a slot for a fingerprint exactly while some query of it has one. -/
theorem exists_lookup_iff (h : Needed p s) (key : String) :
    (∃ slot, s.slots.lookup key = some slot) ↔
      ∃ q ∈ s.queries, q.fingerprint p = key ∧ q.stage.slot?.isSome = true := by
  constructor
  · rintro ⟨slot, found⟩
    obtain ⟨q, mem, same, taken⟩ := h.has _ (mem_of_lookup found)
    exact ⟨q, mem, same, by simp [taken]⟩
  · rintro ⟨q, mem, rfl, taken⟩
    obtain ⟨i, hq⟩ := List.mem_iff_getElem?.1 mem
    obtain ⟨slot, hslot⟩ := Option.isSome_iff_exists.1 taken
    exact ⟨slot, h.slotted.held i q slot hq hslot⟩

/-- When no query has a slot, there is none. -/
theorem slots_eq_nil (h : Needed p s) (free : ∀ q ∈ s.queries, q.stage.slot? = none) :
    s.slots = [] := by
  refine List.eq_nil_iff_forall_not_mem.2 fun x hx => ?_
  obtain ⟨q, mem, -, taken⟩ := h.has x hx
  simp [free q mem] at taken

end Needed

/-! ## Slots while they are needed -/

/-- What is promised of the slots of a state. -/
structure KeepsSlots (p : Profile) (folder : Path) (s : State) : Prop where
  /-- There is a slot for a fingerprint exactly while some query of it has taken one and not left
  it. -/
  needed : ∀ key, (∃ slot, s.slots.lookup key = some slot) ↔
    ∃ q ∈ s.queries, q.fingerprint p = key ∧ q.stage.slot?.isSome = true
  /-- Such queries have the very slot of their fingerprint. -/
  held : ∀ q ∈ s.queries, ∀ slot, q.stage.slot? = some slot →
    s.slots.lookup (q.fingerprint p) = some slot
  /-- A fingerprint has one slot, and a slot one fingerprint. -/
  distinct : (s.slots.map Prod.fst).Nodup ∧ (s.slots.map Prod.snd).Nodup
  /-- A query that leaves takes the slot of its fingerprint away if only the map refers to it. -/
  left : ∀ i q slot outcome, s.queries[i]? = some q → q.stage = .leaving slot outcome →
    s.move? p folder i .leave =
      some ((s.setStage i (.done outcome)).release (q.fingerprint p))
  /-- When every query is done, successfully or not, there are no slots. -/
  ended : (∀ q ∈ s.queries, ∃ outcome, q.stage = .done outcome) → s.slots = []

/-- There are slots exactly while queries need them, however the queries take their steps. -/
theorem slots_while_needed (run : Interleaves p folder s) : KeepsSlots p folder s := by
  have needed := run.needed
  refine ⟨needed.exists_lookup_iff, ?_, ⟨needed.keys, needed.numbers⟩, ?_, ?_⟩
  · intro q mem slot taken
    obtain ⟨i, hq⟩ := List.mem_iff_getElem?.1 mem
    exact needed.slotted.held i q slot hq taken
  · intro i q slot outcome hq leaving
    rw [(Steps.leave leaving).move?_eq hq, needed.dropSlot_eq_release hq leaving]
  · intro ended
    refine needed.slots_eq_nil fun q mem => ?_
    obtain ⟨outcome, done⟩ := ended q mem
    simp [done, Stage.slot?]

/-! ### Three queries that fail -/

/-- A query that finds no answer asks the inner model, and leaves when that fails. -/
theorem Interleaves.fails (run : Interleaves p folder s) (hq : s.queries[i]? = some q)
    (waiting : q.stage = .waiting slot) (free : s.isLocked slot = false)
    (missing : Cache.lookup s.world folder (q.fingerprint p) = none) (failure : Failure) :
    Interleaves p folder
      ((s.setStage i (.done (.error failure))).dropSlot (q.fingerprint p) slot) := by
  have staged : ∀ stage, (s.setStage i stage).queries[i]? = some { q with stage := stage } := by
    intro stage
    rw [State.getElem?_setStage hq, if_pos rfl]
  have again : ∀ stage next, (s.setStage i stage).setStage i next = s.setStage i next := by
    intro stage next
    simp [State.setStage, List.modify_modify_eq, Function.comp_def]
  have locked := run.moved ((Steps.lock waiting free).move?_eq hq)
  have missed : Steps p folder (s.setStage i (.holding slot)) i { q with stage := .holding slot }
      .lookUp ((s.setStage i (.holding slot)).setStage i (.asking slot)) := .missed rfl missing
  have asked := locked.moved (missed.move?_eq (staged _))
  rw [again] at asked
  have refused : Steps p folder (s.setStage i (.asking slot)) i { q with stage := .asking slot }
      (.reply (.error failure)) ((s.setStage i (.asking slot)).setStage i
        (.finishing slot (.error failure))) := .failed rfl
  have failed := asked.moved (refused.move?_eq (staged _))
  rw [again] at failed
  have unlocked := failed.moved ((Steps.unlock rfl).move?_eq (staged _))
  rw [again] at unlocked
  have left := unlocked.moved ((Steps.leave rfl).move?_eq (staged _))
  rwa [again] at left

/-- Three queries of one model, of which the first two ask for the same. -/
def three (first second third : Stage) (slots : List (String × Nat)) (nextSlot : Nat) : State where
  world := ⟨[], []⟩
  queries := [⟨"1", .none, first⟩, ⟨"1", .none, second⟩, ⟨"2", .none, third⟩]
  slots := slots
  nextSlot := nextSlot

/-- The three take their slots. -/
theorem interleaves_three (folder : Path) : Interleaves small folder
    (three (.waiting 0) (.waiting 0) (.waiting 1) [(keyTwo, 1), (keyOne, 0)] 2) := by
  have differ : (keyTwo == keyOne) = false := beq_false_of_ne keyOne_ne_keyTwo.symm
  have started : Interleaves small folder (three .arriving .arriving .arriving [] 0) :=
    .start ⟨[], []⟩ [("1", .none), ("1", .none), ("2", .none)]
  have first : (three .arriving .arriving .arriving [] 0).move? small folder 0 .take =
      some (three (.waiting 0) .arriving .arriving [(keyOne, 0)] 1) := by
    simp [State.move?, three, State.slotFor, Query.fingerprint, fingerprint_one, State.setStage]
  have second : (three (.waiting 0) .arriving .arriving [(keyOne, 0)] 1).move? small folder 1
      .take = some (three (.waiting 0) (.waiting 0) .arriving [(keyOne, 0)] 1) := by
    simp [State.move?, three, State.slotFor, Query.fingerprint, fingerprint_one, State.setStage]
  have third : (three (.waiting 0) (.waiting 0) .arriving [(keyOne, 0)] 1).move? small folder 2
      .take = some (three (.waiting 0) (.waiting 0) (.waiting 1) [(keyTwo, 1), (keyOne, 0)] 2) := by
    simp [State.move?, three, State.slotFor, Query.fingerprint, fingerprint_two, State.setStage,
      List.lookup_cons, differ]
  exact ((started.moved first).moved second).moved third

/-- The slot that two of the queries share is there as long as one of them has it, and in the end
there is none. -/
theorem slots_while_needed_of_three :
    let folder : Path := .ofString "c"
    let failed : Stage := .done (.error (.transport "refused"))
    let shared := three failed (.waiting 0) (.waiting 1) [(keyTwo, 1), (keyOne, 0)] 2
    let ended := three failed failed failed [] 2
    (Interleaves small folder shared ∧ KeepsSlots small folder shared) ∧
      Interleaves small folder ended ∧ KeepsSlots small folder ended := by
  intro folder failed shared ended
  have noOne : Cache.lookup ⟨[], []⟩ folder (fingerprint small "1" .none) = none := by
    rw [fingerprint_one]
    decide +kernel
  have noTwo : Cache.lookup ⟨[], []⟩ folder (fingerprint small "2" .none) = none := by
    rw [fingerprint_two]
    decide +kernel
  have first : Interleaves small folder shared := by
    have left := (interleaves_three folder).fails (i := 0) rfl rfl rfl noOne (.transport "refused")
    simpa [shared, failed, three, State.setStage, State.dropSlot, State.isTaken, Stage.slot?]
      using left
  have second : Interleaves small folder (three failed failed (.waiting 1) [(keyTwo, 1)] 2) := by
    have left := first.fails (i := 1) rfl rfl rfl noOne (.transport "refused")
    simpa [shared, failed, three, State.setStage, State.dropSlot, State.isTaken, Stage.slot?,
      Query.fingerprint, fingerprint_one, keyOne_ne_keyTwo.symm] using left
  have third : Interleaves small folder ended := by
    have left := second.fails (i := 2) rfl rfl rfl noTwo (.transport "refused")
    simpa [ended, failed, three, State.setStage, State.dropSlot, State.isTaken, Stage.slot?,
      Query.fingerprint, fingerprint_two] using left
  exact ⟨⟨first, slots_while_needed first⟩, third, slots_while_needed third⟩

end Mutagenesis.Flight
