import Mutagenesis.Model.Flight

/-!
# Slots and their locks

A query that has taken a slot has the slot of its fingerprint, for a slot is only taken away when
no query has it, and at most one query holds the lock of a slot. So of the queries of one
fingerprint, at most one at a time looks its answer up, asks the inner model or stores an answer.
-/
namespace Mutagenesis.Flight

/-! ## Steps -/

/-- What a step of a query makes of a state. -/
inductive Steps (p : Profile) (folder : Path) (s : State) (i : Nat) (q : Query) :
    Move → State → Prop
  | take (stage : q.stage = .arriving) :
      Steps p folder s i q .take ((s.slotFor (q.fingerprint p)).2.setStage i
        (.waiting (s.slotFor (q.fingerprint p)).1))
  | lock {slot : Nat} (stage : q.stage = .waiting slot) (free : s.isLocked slot = false) :
      Steps p folder s i q .lock (s.setStage i (.holding slot))
  | found {slot : Nat} {answer : Answer} (stage : q.stage = .holding slot)
      (found : Cache.lookup s.world folder (q.fingerprint p) = some answer) :
      Steps p folder s i q .lookUp (s.setStage i (.finishing slot (.ok answer)))
  | missed {slot : Nat} (stage : q.stage = .holding slot)
      (missing : Cache.lookup s.world folder (q.fingerprint p) = none) :
      Steps p folder s i q .lookUp (s.setStage i (.asking slot))
  | answered {slot : Nat} {answer : Answer} (stage : q.stage = .asking slot) :
      Steps p folder s i q (.reply (.ok answer)) (s.setStage i (.storing slot answer))
  | failed {slot : Nat} {failure : Failure} (stage : q.stage = .asking slot) :
      Steps p folder s i q (.reply (.error failure))
        (s.setStage i (.finishing slot (.error failure)))
  | store {slot : Nat} {answer : Answer} {result : Except Files.Fault Unit} {w : Files.World}
      (stage : q.stage = .storing slot answer)
      (stored : Cache.store s.world folder (Cache.entryOf p q.prompt q.options answer) =
        (result, w)) :
      Steps p folder s i q .store
        ({ s with world := w }.setStage i (.finishing slot (.ok answer)))
  | unlock {slot : Nat} {outcome : Except Failure Answer}
      (stage : q.stage = .finishing slot outcome) :
      Steps p folder s i q .unlock (s.setStage i (.leaving slot outcome))
  | leave {slot : Nat} {outcome : Except Failure Answer} (stage : q.stage = .leaving slot outcome) :
      Steps p folder s i q .leave
        ((s.setStage i (.done outcome)).dropSlot (q.fingerprint p) slot)

variable {p : Profile} {folder : Path} {s s' : State} {i j : Nat} {q q' : Query} {move : Move}
  {stage : Stage} {slot : Nat} {key : String}

/-- A state after a step has come of one of the steps of a query. -/
theorem steps_of_move? (h : s.move? p folder i move = some s') :
    ∃ q, s.queries[i]? = some q ∧ Steps p folder s i q move s' := by
  unfold State.move? at h
  cases hq : s.queries[i]? with
  | none => simp [hq] at h
  | some q =>
      refine ⟨q, rfl, ?_⟩
      simp only [hq, Option.bind_eq_bind, Option.bind_some] at h
      split at h
      next stage =>
        obtain rfl := Option.some.inj h
        exact .take stage
      next slot stage =>
        split at h
        next => simp at h
        next free =>
          obtain rfl := Option.some.inj h
          exact .lock stage (by simpa using free)
      next slot stage =>
        split at h
        next answer found =>
          obtain rfl := Option.some.inj h
          exact .found stage found
        next missing =>
          obtain rfl := Option.some.inj h
          exact .missed stage missing
      next stage =>
        obtain rfl := Option.some.inj h
        exact .answered stage
      next stage =>
        obtain rfl := Option.some.inj h
        exact .failed stage
      next stage =>
        obtain rfl := Option.some.inj h
        exact .store stage (Prod.eta _).symm
      next stage =>
        obtain rfl := Option.some.inj h
        exact .unlock stage
      next stage =>
        obtain rfl := Option.some.inj h
        exact .leave stage
      next => simp at h

/-- Each of these steps can be taken. -/
theorem Steps.move?_eq (steps : Steps p folder s i q move s') (hq : s.queries[i]? = some q) :
    s.move? p folder i move = some s' := by
  cases steps with
  | take stage | answered stage | failed stage | unlock stage | leave stage =>
      simp [State.move?, hq, stage]
  | lock stage free => simp [State.move?, hq, stage, free]
  | found stage found => simp [State.move?, hq, stage, found]
  | missed stage missing => simp [State.move?, hq, stage, missing]
  | store stage stored => simp [State.move?, hq, stage, stored]

/-! ## Stages of queries -/

@[simp] theorem fingerprint_stage (q : Query) (stage : Stage) (p : Profile) :
    ({ q with stage := stage } : Query).fingerprint p = q.fingerprint p := rfl

namespace State

/-- The queries that are about to be made. -/
theorem query_of_start {w : Files.World} {queries : List (String × Options)}
    (hq : q ∈ (start w queries).queries) : ∃ x ∈ queries, q = ⟨x.1, x.2, .arriving⟩ := by
  obtain ⟨x, hx, rfl⟩ := List.mem_map.1 hq
  exact ⟨x, hx, rfl⟩

@[simp] theorem world_setStage (s : State) (i : Nat) (stage : Stage) :
    (s.setStage i stage).world = s.world := rfl

@[simp] theorem slots_setStage (s : State) (i : Nat) (stage : Stage) :
    (s.setStage i stage).slots = s.slots := rfl

@[simp] theorem queries_slotFor (s : State) (key : String) :
    (s.slotFor key).2.queries = s.queries := by
  unfold slotFor
  split <;> rfl

@[simp] theorem world_slotFor (s : State) (key : String) :
    (s.slotFor key).2.world = s.world := by
  unfold slotFor
  split <;> rfl

@[simp] theorem queries_dropSlot (s : State) (key : String) (slot : Nat) :
    (s.dropSlot key slot).queries = s.queries := by
  unfold dropSlot
  split <;> rfl

@[simp] theorem world_dropSlot (s : State) (key : String) (slot : Nat) :
    (s.dropSlot key slot).world = s.world := by
  unfold dropSlot
  split <;> rfl

/-- The stage of one query is set, and the others are as they were. -/
theorem getElem?_setStage (hq : s.queries[i]? = some q) (stage : Stage) (j : Nat) :
    (s.setStage i stage).queries[j]? =
      if j = i then some { q with stage := stage } else s.queries[j]? := by
  rw [setStage, List.getElem?_modify]
  by_cases same : j = i
  · subst same
    simp [hq]
  · simp [same, Ne.symm same]

theorem query_of_setStage (hq : s.queries[i]? = some q)
    (hq' : (s.setStage i stage).queries[j]? = some q') :
    (j = i ∧ q' = { q with stage := stage }) ∨ (j ≠ i ∧ s.queries[j]? = some q') := by
  rw [getElem?_setStage hq] at hq'
  split at hq'
  next same => exact .inl ⟨same, (Option.some.inj hq').symm⟩
  next other => exact .inr ⟨other, hq'⟩

end State

/-- How a step takes a query from one stage to the next. -/
inductive Stage.Turns : Stage → Move → Stage → Prop
  | take {slot : Nat} : Turns .arriving .take (.waiting slot)
  | lock {slot : Nat} : Turns (.waiting slot) .lock (.holding slot)
  | found {slot : Nat} {answer : Answer} :
      Turns (.holding slot) .lookUp (.finishing slot (.ok answer))
  | missed {slot : Nat} : Turns (.holding slot) .lookUp (.asking slot)
  | answered {slot : Nat} {answer : Answer} :
      Turns (.asking slot) (.reply (.ok answer)) (.storing slot answer)
  | failed {slot : Nat} {failure : Failure} :
      Turns (.asking slot) (.reply (.error failure)) (.finishing slot (.error failure))
  | store {slot : Nat} {answer : Answer} :
      Turns (.storing slot answer) .store (.finishing slot (.ok answer))
  | unlock {slot : Nat} {outcome : Except Failure Answer} :
      Turns (.finishing slot outcome) .unlock (.leaving slot outcome)
  | leave {slot : Nat} {outcome : Except Failure Answer} :
      Turns (.leaving slot outcome) .leave (.done outcome)

/-- A step sets the stage of its query and of no other. -/
theorem Steps.turns (steps : Steps p folder s i q move s') :
    ∃ stage, q.stage.Turns move stage ∧ s'.queries = (s.setStage i stage).queries := by
  cases steps with
  | take stage =>
      rw [stage]
      exact ⟨.waiting (s.slotFor (q.fingerprint p)).1, .take, by simp [State.setStage]⟩
  | @lock slot stage =>
      rw [stage]
      exact ⟨.holding slot, .lock, rfl⟩
  | @found slot answer stage =>
      rw [stage]
      exact ⟨.finishing slot (.ok answer), .found, rfl⟩
  | @missed slot stage =>
      rw [stage]
      exact ⟨.asking slot, .missed, rfl⟩
  | @answered slot answer stage =>
      rw [stage]
      exact ⟨.storing slot answer, .answered, rfl⟩
  | @failed slot failure stage =>
      rw [stage]
      exact ⟨.finishing slot (.error failure), .failed, rfl⟩
  | @store slot answer _ _ stage =>
      rw [stage]
      exact ⟨.finishing slot (.ok answer), .store, rfl⟩
  | @unlock slot outcome stage =>
      rw [stage]
      exact ⟨.leaving slot outcome, .unlock, rfl⟩
  | @leave slot outcome stage =>
      rw [stage]
      exact ⟨.done outcome, .leave, by simp⟩

theorem Stage.slot?_of_locked? (h : stage.locked? = some slot) : stage.slot? = some slot := by
  cases stage <;> simp_all [Stage.locked?, Stage.slot?]

/-! ## What slots keep to -/

/-- Queries that have a slot have that of their fingerprints, and those that hold one lock are the
same. -/
structure Slotted (p : Profile) (s : State) : Prop where
  held : ∀ (i : Nat) (q : Query) (slot : Nat), s.queries[i]? = some q → q.stage.slot? = some slot →
    s.slots.lookup (q.fingerprint p) = some slot
  single : ∀ (i j : Nat) (q q' : Query) (slot : Nat), s.queries[i]? = some q →
    s.queries[j]? = some q' → q.stage.locked? = some slot → q'.stage.locked? = some slot → i = j

namespace Slotted

/-- Queries of one fingerprint that hold a lock are the same. -/
theorem eq_of_locked (h : Slotted p s) (hq : s.queries[i]? = some q) (hq' : s.queries[j]? = some q')
    (locked : q.stage.locked?.isSome = true) (locked' : q'.stage.locked?.isSome = true)
    (same : q'.fingerprint p = q.fingerprint p) : i = j := by
  obtain ⟨slot, hslot⟩ := Option.isSome_iff_exists.1 locked
  obtain ⟨slot', hslot'⟩ := Option.isSome_iff_exists.1 locked'
  have taken := h.held i q slot hq (Stage.slot?_of_locked? hslot)
  have taken' := h.held j q' slot' hq' (Stage.slot?_of_locked? hslot')
  rw [same, taken] at taken'
  obtain rfl := Option.some.inj taken'
  exact h.single i j q q' slot hq hq' hslot hslot'

theorem start (p : Profile) (w : Files.World) (queries : List (String × Options)) :
    Slotted p (State.start w queries) := by
  refine ⟨?_, ?_⟩
  · intro i q slot hq taken
    obtain ⟨x, -, rfl⟩ := State.query_of_start (List.mem_of_getElem? hq)
    simp [Stage.slot?] at taken
  · intro i j q q' slot hq _ locked
    obtain ⟨x, -, rfl⟩ := State.query_of_start (List.mem_of_getElem? hq)
    simp [Stage.locked?] at locked

theorem inWorld (h : Slotted p s) (w : Files.World) : Slotted p { s with world := w } :=
  ⟨h.held, h.single⟩

/-- A query may go on to a stage in which it has the slot of its fingerprint and holds a lock that
no other query holds. -/
theorem setStage (h : Slotted p s) (hq : s.queries[i]? = some q)
    (taken : ∀ slot, stage.slot? = some slot → s.slots.lookup (q.fingerprint p) = some slot)
    (alone : ∀ (j : Nat) (q' : Query) (slot : Nat), j ≠ i → s.queries[j]? = some q' →
      q'.stage.locked? = some slot → stage.locked? ≠ some slot) :
    Slotted p (s.setStage i stage) := by
  refine ⟨?_, ?_⟩
  · intro j q' slot hq' taken'
    obtain ⟨rfl, rfl⟩ | ⟨-, hq'⟩ := State.query_of_setStage hq hq'
    · exact taken slot taken'
    · exact h.held j q' slot hq' taken'
  · intro j k q₁ q₂ slot hq₁ hq₂ locked₁ locked₂
    obtain ⟨first, rfl⟩ | ⟨first, hj⟩ := State.query_of_setStage hq hq₁ <;>
      obtain ⟨second, rfl⟩ | ⟨second, hk⟩ := State.query_of_setStage hq hq₂
    · exact first.trans second.symm
    · exact absurd locked₁ (alone k q₂ slot second hk locked₂)
    · exact absurd locked₂ (alone j q₁ slot first hj locked₁)
    · exact h.single j k q₁ q₂ slot hj hk locked₁ locked₂

/-- A query that goes on without taking a lock keeps its slot or leaves it. -/
theorem goOn (h : Slotted p s) (hq : s.queries[i]? = some q)
    (slots : ∀ slot, stage.slot? = some slot → q.stage.slot? = some slot)
    (locks : ∀ slot, stage.locked? = some slot → q.stage.locked? = some slot) :
    Slotted p (s.setStage i stage) := by
  refine h.setStage hq (fun slot taken => h.held i q slot hq (slots slot taken)) ?_
  intro j q' slot other hq' locked locked'
  exact other (h.single i j q q' slot hq hq' (locks slot locked') locked).symm

/-- A new slot is no matter to the others. -/
theorem slotFor (h : Slotted p s) (key : String) : Slotted p (s.slotFor key).2 := by
  refine ⟨?_, by simpa using h.single⟩
  intro i q slot hq taken
  rw [State.queries_slotFor] at hq
  have before := h.held i q slot hq taken
  unfold State.slotFor
  split
  next => exact before
  next none =>
    have differ : (q.fingerprint p == key) = false := by
      rw [beq_eq_false_iff_ne]
      rintro rfl
      simp [none] at before
    simpa [List.lookup_cons, differ] using before

theorem lookup_slotFor (s : State) (key : String) :
    (s.slotFor key).2.slots.lookup key = some (s.slotFor key).1 := by
  unfold State.slotFor
  split
  next slot found => exact found
  next => simp

/-- A slot that no query has may be taken away. -/
theorem dropSlot (h : Slotted p s)
    (mine : ∀ (i : Nat) (q : Query) (slot' : Nat), s.queries[i]? = some q → q.fingerprint p = key →
      q.stage.slot? = some slot' → slot' = slot) : Slotted p (s.dropSlot key slot) := by
  refine ⟨?_, by simpa using h.single⟩
  intro i q slot' hq taken
  rw [State.queries_dropSlot] at hq
  have before := h.held i q slot' hq taken
  unfold State.dropSlot
  split
  next => exact before
  next free =>
    have differ : q.fingerprint p ≠ key := by
      intro same
      obtain rfl := mine i q slot' hq same taken
      refine free (List.any_eq_true.2 ⟨q, List.mem_of_getElem? hq, by simpa using taken⟩)
    have kept := Files.World.lookup_filter s.slots (fun x => decide (x ≠ key)) (q.fingerprint p)
    simp only [differ, ne_eq, not_false_eq_true, decide_true, if_true] at kept
    exact kept.trans before

/-- Every step keeps to it. -/
theorem step (h : Slotted p s) (hq : s.queries[i]? = some q)
    (steps : Steps p folder s i q move s') : Slotted p s' := by
  cases steps with
  | take stage =>
      refine (h.slotFor _).setStage (by simpa using hq) ?_ ?_
      · intro slot taken
        rw [lookup_slotFor]
        simpa [Stage.slot?] using taken
      · simp [Stage.locked?]
  | @lock slot stage free =>
      refine h.setStage hq ?_ ?_
      · intro slot' taken
        exact h.held i q slot' hq (by simpa [stage, Stage.slot?] using taken)
      · intro j q' slot' _ hq' locked locked'
        obtain rfl : slot = slot' := by simpa [Stage.locked?] using locked'
        refine absurd ?_ (Bool.eq_false_iff.1 free)
        exact List.any_eq_true.2 ⟨q', List.mem_of_getElem? hq', by simpa using locked⟩
  | found stage | missed stage | answered stage | failed stage =>
      exact h.goOn hq (by simp [stage, Stage.slot?]) (by simp [stage, Stage.locked?])
  | store stage =>
      exact (h.inWorld _).goOn hq (by simp [stage, Stage.slot?]) (by simp [stage, Stage.locked?])
  | unlock stage => exact h.goOn hq (by simp [stage, Stage.slot?]) (by simp [Stage.locked?])
  | @leave slot outcome stage =>
      have left : Slotted p (s.setStage i (.done outcome)) :=
        h.goOn hq (by simp [Stage.slot?]) (by simp [Stage.locked?])
      refine left.dropSlot ?_
      -- the query that leaves had the slot of its fingerprint
      intro j q' slot' hq' same taken
      have mine := h.held i q slot hq (by simp [stage, Stage.slot?])
      have yours := left.held j q' slot' hq' taken
      rw [State.slots_setStage, same, mine] at yours
      exact (Option.some.inj yours).symm

end Slotted

end Mutagenesis.Flight
