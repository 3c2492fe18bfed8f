import Mutagenesis.Proofs.Flight.Runs

/-!
# Queries on their own

A query that no other one gets in the way of comes to its end: it returns the answer that is found,
or asks for one, stores it and returns it. A query that arrives while another one of its fingerprint
is on its way waits, and then finds the answer.
-/
namespace Mutagenesis.Flight

open Files (Address Route World)

variable {avoided : Address} {folder : Path} {r : Route} {w₀ w w' : World} {log : List Note}
  {model : Nat} {p : Profile} {s : State} {i : Nat} {q : Query} {answer : Answer}

namespace State

/-- Whether no query is on its way. -/
structure IsIdle (s : State) : Prop where
  slots : s.slots = []
  queries : ∀ q ∈ s.queries, q.stage.slot? = none

/-- The state in which a query is alone on its way. -/
def alone (s : State) (w : World) (i : Nat) (key : String) (stage : Stage) : State :=
  { s with
    world := w
    queries := s.queries.modify i fun q => { q with stage := stage }
    slots := [(key, s.nextSlot)]
    nextSlot := s.nextSlot + 1 }

/-- The state after a query has been alone on its way. -/
def past (s : State) (w : World) (i : Nat) (outcome : Except Failure Answer) : State :=
  { s with
    world := w
    queries := s.queries.modify i fun q => { q with stage := .done outcome }
    nextSlot := s.nextSlot + 1 }

theorem isIdle_start (w : World) (queries : List (String × Options)) :
    (start w queries).IsIdle := by
  refine ⟨rfl, fun q hq => ?_⟩
  obtain ⟨x, -, rfl⟩ := query_of_start hq
  rfl

variable {key : String} {stage next : Stage} {slot : Nat} {outcome : Except Failure Answer}

theorem getElem?_alone (hq : s.queries[i]? = some q) :
    (s.alone w i key stage).queries[i]? = some { q with stage := stage } := by
  simp [alone, hq]

theorem setStage_alone : (s.alone w i key stage).setStage i next = s.alone w i key next := by
  simp [setStage, alone, List.modify_modify_eq, Function.comp_def]

/-- No other query has a slot. -/
theorem slot?_of_mem_modify (idle : s.IsIdle) (hq : q ∈ s.queries.modify i fun q =>
    { q with stage := stage }) (hslot : q.stage.slot? = some slot) : q.stage = stage := by
  obtain ⟨j, hj, hget⟩ := List.mem_iff_getElem.1 hq
  rw [List.getElem_modify] at hget
  split at hget
  next =>
    subst hget
    rfl
  next =>
    have free := idle.queries _ (hget ▸ List.getElem_mem _)
    simp [free] at hslot

theorem isLocked_alone (idle : s.IsIdle) (unlocked : stage.locked? = none) (slot : Nat) :
    (s.alone w i key stage).isLocked slot = false := by
  rw [isLocked, List.any_eq_false]
  intro q hq locked
  have locked : q.stage.locked? = some slot := by simpa using locked
  have same := slot?_of_mem_modify idle hq (Stage.slot?_of_locked? locked)
  simp [same, unlocked] at locked

theorem isIdle_past (idle : s.IsIdle) : (s.past w i outcome).IsIdle := by
  refine ⟨idle.slots, fun q hq => ?_⟩
  apply Option.not_isSome_iff_eq_none.1
  intro taken
  obtain ⟨slot, hslot⟩ := Option.isSome_iff_exists.1 taken
  simp [slot?_of_mem_modify idle hq hslot, Stage.slot?] at hslot

theorem isTaken_alone (idle : s.IsIdle) (slot : Nat) :
    (s.alone w i key (.done outcome)).isTaken slot = false := by
  rw [isTaken, List.any_eq_false]
  intro q hq taken
  have taken : q.stage.slot? = some slot := by simpa using taken
  simp [slot?_of_mem_modify idle hq taken, Stage.slot?] at taken

end State

/-! ## A query that is left alone -/

section Moves

variable {key : String} {slot : Nat} {outcome : Except Failure Answer}

namespace State

theorem IsIdle.take (idle : s.IsIdle) (hq : s.queries[i]? = some q)
    (arriving : q.stage = .arriving) : s.move? p folder i .take =
      some (s.alone s.world i (q.fingerprint p) (.waiting s.nextSlot)) := by
  rw [(Steps.take arriving).move?_eq hq]
  simp [slotFor, idle.slots, setStage, alone]

theorem IsIdle.lock (idle : s.IsIdle) (hq : s.queries[i]? = some q) :
    (s.alone w i key (.waiting slot)).move? p folder i .lock =
      some (s.alone w i key (.holding slot)) := by
  have free : (s.alone w i key (.waiting slot)).isLocked slot = false :=
    isLocked_alone idle rfl slot
  rw [(Steps.lock rfl free).move?_eq (getElem?_alone hq), setStage_alone]

theorem found_alone (hq : s.queries[i]? = some q)
    (found : Cache.lookup w folder (q.fingerprint p) = some answer) :
    (s.alone w i key (.holding slot)).move? p folder i .lookUp =
      some (s.alone w i key (.finishing slot (.ok answer))) := by
  have steps : Steps p folder (s.alone w i key (.holding slot)) i { q with stage := .holding slot }
      .lookUp ((s.alone w i key (.holding slot)).setStage i (.finishing slot (.ok answer))) :=
    .found rfl found
  rw [steps.move?_eq (getElem?_alone hq), setStage_alone]

theorem missed_alone (hq : s.queries[i]? = some q)
    (missing : Cache.lookup w folder (q.fingerprint p) = none) :
    (s.alone w i key (.holding slot)).move? p folder i .lookUp =
      some (s.alone w i key (.asking slot)) := by
  have steps : Steps p folder (s.alone w i key (.holding slot)) i { q with stage := .holding slot }
      .lookUp ((s.alone w i key (.holding slot)).setStage i (.asking slot)) := .missed rfl missing
  rw [steps.move?_eq (getElem?_alone hq), setStage_alone]

theorem store_alone (hq : s.queries[i]? = some q)
    (stored : Cache.store w folder (Cache.entryOf p q.prompt q.options answer) = (.ok (), w')) :
    (s.alone w i key (.storing slot answer)).move? p folder i .store =
      some (s.alone w' i key (.finishing slot (.ok answer))) := by
  have steps : Steps p folder (s.alone w i key (.storing slot answer)) i
      { q with stage := .storing slot answer } .store
        ((s.alone w' i key (.storing slot answer)).setStage i (.finishing slot (.ok answer))) :=
    .store rfl stored
  rw [steps.move?_eq (getElem?_alone hq), setStage_alone]

theorem IsIdle.leave (idle : s.IsIdle) (hq : s.queries[i]? = some q) :
    (s.alone w i (q.fingerprint p) (.leaving slot outcome)).move? p folder i .leave =
      some (s.past w i outcome) := by
  rw [(Steps.leave rfl).move?_eq (getElem?_alone hq), setStage_alone, dropSlot,
    isTaken_alone idle]
  simp [alone, past, idle.slots]

theorem getElem?_past (hq : s.queries[i]? = some q) :
    (s.past w i outcome).queries[i]? = some { q with stage := .done outcome } := by
  simp [past, hq]

end State

/-- A step that stores an answer goes as it should when the answer can be stored. -/
theorem admits_store (hq : s.queries[i]? = some q) (storing : q.stage = .storing slot answer)
    (stored : Cache.store s.world folder (Cache.entryOf p q.prompt q.options answer) =
      (.ok (), w')) : Admits p folder s i .store := by
  intro entry hentry
  obtain rfl : Cache.entryOf p q.prompt q.options answer = entry := by
    simpa [hq, Query.pending?, storing] using hentry
  exact congrArg Prod.fst stored

/-- A query that has been told its outcome returns it. -/
theorem Reaches.finish (idle : s.IsIdle) (hq : s.queries[i]? = some q)
    (run : Reaches avoided folder r w₀ log model p
      (s.alone w i (q.fingerprint p) (.finishing slot outcome))) :
    Reaches avoided folder r w₀ (log ++ [⟨model, i, q.fingerprint p, .returned outcome⟩]) model p
      (s.past w i outcome) := by
  have unlocked : (s.alone w i (q.fingerprint p) (.finishing slot outcome)).move? p folder i
      .unlock = some (s.alone w i (q.fingerprint p) (.leaving slot outcome)) := by
    rw [(Steps.unlock rfl).move?_eq (State.getElem?_alone hq), State.setStage_alone]
  have left := (run.moved unlocked trivial).moved (idle.leave hq) trivial
  simpa [notes, State.getElem?_alone hq, State.getElem?_past hq, act?] using left

/-- A query that arrives while no other is on its way comes to look its answer up. -/
theorem Reaches.arrive (run : Reaches avoided folder r w₀ log model p s) (idle : s.IsIdle)
    (hq : s.queries[i]? = some q) (arriving : q.stage = .arriving) :
    Reaches avoided folder r w₀ log model p
      (s.alone s.world i (q.fingerprint p) (.holding s.nextSlot)) := by
  have locked := (run.moved (idle.take hq arriving) trivial).moved (idle.lock hq) trivial
  simpa [notes, State.getElem?_alone hq, act?] using locked

/-- A query that is left alone returns the answer that is found. -/
theorem Reaches.alone_found (run : Reaches avoided folder r w₀ log model p s) (idle : s.IsIdle)
    (hq : s.queries[i]? = some q) (arriving : q.stage = .arriving)
    (found : Cache.lookup s.world folder (q.fingerprint p) = some answer) :
    Reaches avoided folder r w₀ (log ++ [⟨model, i, q.fingerprint p, .returned (.ok answer)⟩])
      model p (s.past s.world i (.ok answer)) := by
  have looked := (run.arrive idle hq arriving).moved (State.found_alone hq found) trivial
  simp only [notes, State.getElem?_alone hq, act?, Option.map_none, Option.toList_none,
    List.append_nil] at looked
  exact looked.finish idle hq

/-- A query that is left alone and finds nothing asks the inner model. -/
theorem Reaches.alone_asks (run : Reaches avoided folder r w₀ log model p s) (idle : s.IsIdle)
    (hq : s.queries[i]? = some q) (arriving : q.stage = .arriving)
    (missing : Cache.lookup s.world folder (q.fingerprint p) = none) :
    Reaches avoided folder r w₀ (log ++ [⟨model, i, q.fingerprint p, .asked⟩]) model p
      (s.alone s.world i (q.fingerprint p) (.asking s.nextSlot)) := by
  have asked := (run.arrive idle hq arriving).moved (State.missed_alone hq missing) trivial
  simpa [notes, State.getElem?_alone hq, act?] using asked

/-- It stores the answer of the inner model and returns it. -/
theorem Reaches.alone_answered (idle : s.IsIdle) (hq : s.queries[i]? = some q)
    (run : Reaches avoided folder r w₀ log model p
      (s.alone w i (q.fingerprint p) (.asking slot))) (fits : answer.usage.Fits)
    (stored : Cache.store w folder (Cache.entryOf p q.prompt q.options answer) = (.ok (), w')) :
    Reaches avoided folder r w₀ (log ++ [⟨model, i, q.fingerprint p, .replied (.ok answer)⟩,
        ⟨model, i, q.fingerprint p, .returned (.ok answer)⟩]) model p
      (s.past w' i (.ok answer)) := by
  have replied : (s.alone w i (q.fingerprint p) (.asking slot)).move? p folder i
      (.reply (.ok answer)) = some (s.alone w i (q.fingerprint p) (.storing slot answer)) := by
    rw [(Steps.answered rfl).move?_eq (State.getElem?_alone hq), State.setStage_alone]
  have succeeds : Admits p folder (s.alone w i (q.fingerprint p) (.storing slot answer)) i .store :=
    admits_store (State.getElem?_alone hq) rfl stored
  have kept := (run.moved replied fits).moved (State.store_alone hq stored) succeeds
  have finished := kept.finish idle hq
  simpa [notes, State.getElem?_alone hq, act?] using finished

end Moves

/-! ## Two queries of one fingerprint -/

section Pair

variable {x y : String × Options}

/-- The state of two queries that share a slot. -/
def pair (w : World) (p : Profile) (x y : String × Options) (first second : Stage) : State where
  world := w
  queries := [⟨x.1, x.2, first⟩, ⟨y.1, y.2, second⟩]
  slots := [(fingerprint p x.1 x.2, 0)]
  nextSlot := 1

/-- While the first query asks, the second one comes and has to wait. -/
theorem Reaches.pair_asks (fit : x.2.Fits ∧ y.2.Fits)
    (same : fingerprint p y.1 y.2 = fingerprint p x.1 x.2)
    (missing : Cache.lookup w folder (fingerprint p x.1 x.2) = none) :
    Reaches avoided folder r w [⟨0, 0, fingerprint p x.1 x.2, .asked⟩] 0 p
      (pair w p x y (.asking 0) (.waiting 0)) := by
  have opened : Reaches avoided folder r w [] 0 p (.start w [x, y]) := .opened (by simpa using fit)
  have taken : (State.start w [x, y]).move? p folder 0 .take =
      some (pair w p x y (.waiting 0) .arriving) := rfl
  have locked : (pair w p x y (.waiting 0) .arriving).move? p folder 0 .lock =
      some (pair w p x y (.holding 0) .arriving) := rfl
  have missed : (pair w p x y (.holding 0) .arriving).move? p folder 0 .lookUp =
      some (pair w p x y (.asking 0) .arriving) := by
    simp [State.move?, pair, Query.fingerprint, missing, State.setStage]
  have joined : (pair w p x y (.asking 0) .arriving).move? p folder 1 .take =
      some (pair w p x y (.asking 0) (.waiting 0)) := by
    simp [State.move?, pair, State.slotFor, Query.fingerprint, same, State.setStage]
  have asked := (((opened.moved taken trivial).moved locked trivial).moved missed trivial).moved
    joined trivial
  simpa [notes, pair, act?, Query.fingerprint, same] using asked

/-- The second query finds what the first one has stored, before this one has left the slot. -/
theorem Reaches.pair_finds (run : Reaches avoided folder r w₀ log model p
      (pair w p x y (.leaving 0 (.ok answer)) (.waiting 0)))
    (same : fingerprint p y.1 y.2 = fingerprint p x.1 x.2)
    (found : Cache.lookup w folder (fingerprint p x.1 x.2) = some answer) :
    Reaches avoided folder r w₀ (log ++
        [⟨model, 0, fingerprint p x.1 x.2, .returned (.ok answer)⟩,
          ⟨model, 1, fingerprint p x.1 x.2, .returned (.ok answer)⟩]) model p
      { pair w p x y (.done (.ok answer)) (.done (.ok answer)) with slots := [] } := by
  have locked : (pair w p x y (.leaving 0 (.ok answer)) (.waiting 0)).move? p folder 1 .lock =
      some (pair w p x y (.leaving 0 (.ok answer)) (.holding 0)) := rfl
  have looked : (pair w p x y (.leaving 0 (.ok answer)) (.holding 0)).move? p folder 1 .lookUp =
      some (pair w p x y (.leaving 0 (.ok answer)) (.finishing 0 (.ok answer))) := by
    simp [State.move?, pair, Query.fingerprint, same, found, State.setStage]
  have left : (pair w p x y (.leaving 0 (.ok answer)) (.finishing 0 (.ok answer))).move? p folder
      0 .leave = some (pair w p x y (.done (.ok answer)) (.finishing 0 (.ok answer))) := rfl
  have unlocked : (pair w p x y (.done (.ok answer)) (.finishing 0 (.ok answer))).move? p folder 1
      .unlock = some (pair w p x y (.done (.ok answer)) (.leaving 0 (.ok answer))) := rfl
  have emptied : (pair w p x y (.done (.ok answer)) (.leaving 0 (.ok answer))).move? p folder 1
      .leave =
        some { pair w p x y (.done (.ok answer)) (.done (.ok answer)) with slots := [] } := by
    simp [State.move?, pair, State.setStage, State.dropSlot, State.isTaken, Stage.slot?,
      Query.fingerprint, same]
  have ended := ((((run.moved locked trivial).moved looked trivial).moved left trivial).moved
    unlocked trivial).moved emptied trivial
  simpa [notes, pair, act?, Query.fingerprint, same] using ended

/-- Of two queries of one fingerprint, the second one waits for the answer to the first one. -/
theorem Reaches.pair_answered (fit : x.2.Fits ∧ y.2.Fits)
    (same : fingerprint p y.1 y.2 = fingerprint p x.1 x.2)
    (missing : Cache.lookup w folder (fingerprint p x.1 x.2) = none)
    (fits : answer.usage.Fits)
    (stored : Cache.store w folder (Cache.entryOf p x.1 x.2 answer) = (.ok (), w'))
    (found : Cache.lookup w' folder (fingerprint p x.1 x.2) = some answer) :
    Reaches avoided folder r w
      [⟨0, 0, fingerprint p x.1 x.2, .asked⟩,
        ⟨0, 0, fingerprint p x.1 x.2, .replied (.ok answer)⟩,
        ⟨0, 0, fingerprint p x.1 x.2, .returned (.ok answer)⟩,
        ⟨0, 1, fingerprint p x.1 x.2, .returned (.ok answer)⟩] 0 p
      { pair w' p x y (.done (.ok answer)) (.done (.ok answer)) with slots := [] } := by
  have asked : Reaches avoided folder r w _ 0 p _ := Reaches.pair_asks fit same missing
  have replied : (pair w p x y (.asking 0) (.waiting 0)).move? p folder 0 (.reply (.ok answer)) =
      some (pair w p x y (.storing 0 answer) (.waiting 0)) := rfl
  have kept : (pair w p x y (.storing 0 answer) (.waiting 0)).move? p folder 0 .store =
      some (pair w' p x y (.finishing 0 (.ok answer)) (.waiting 0)) := by
    simp [State.move?, pair, stored, State.setStage]
  have succeeds : Admits p folder (pair w p x y (.storing 0 answer) (.waiting 0)) 0 .store :=
    admits_store (q := ⟨x.1, x.2, .storing 0 answer⟩) rfl rfl stored
  have unlocked : (pair w' p x y (.finishing 0 (.ok answer)) (.waiting 0)).move? p folder 0
      .unlock = some (pair w' p x y (.leaving 0 (.ok answer)) (.waiting 0)) := rfl
  have answered := ((asked.moved replied fits).moved kept succeeds).moved unlocked trivial
  simpa [notes, pair, act?, Query.fingerprint] using answered.pair_finds same found

end Pair

end Mutagenesis.Flight
