import Mutagenesis.Model.Cache

/-!
# Queries in flight

Queries that are made of one cached model at the same time. Each takes the slot of its
fingerprint, which is made when there is none, waits for the slot's lock, looks the answer up, asks
the inner model when there is none, stores what it says, gives the lock back and leaves the slot;
the last query to leave takes the slot away. `State.move?` is one such step of one query, and
queries may take their steps in any order.
-/
namespace Mutagenesis.Flight

open Files (World)

/-- How far a query has come. A slot is known by its number. -/
inductive Stage where
  | arriving
  /-- Has its slot and waits for the lock. -/
  | waiting (slot : Nat)
  /-- Holds the lock and is about to look the answer up. -/
  | holding (slot : Nat)
  /-- Holds the lock while the inner model is asked. -/
  | asking (slot : Nat)
  /-- Holds the lock and is about to store the answer. -/
  | storing (slot : Nat) (answer : Answer)
  /-- Holds the lock and is about to give it back. -/
  | finishing (slot : Nat) (outcome : Except Failure Answer)
  /-- Has given the lock back and not left the slot yet. -/
  | leaving (slot : Nat) (outcome : Except Failure Answer)
  | done (outcome : Except Failure Answer)

namespace Stage

/-- The slot that a query has taken and not left. -/
def slot? : Stage → Option Nat
  | arriving => none
  | waiting slot | holding slot | asking slot | storing slot _ | finishing slot _
  | leaving slot _ => some slot
  | done _ => none

/-- The slot whose lock a query holds. -/
def locked? : Stage → Option Nat
  | holding slot | asking slot | storing slot _ | finishing slot _ => some slot
  | _ => none

end Stage

/-- A query of the cached model. -/
structure Query where
  prompt : String
  options : Options
  stage : Stage

def Query.fingerprint (q : Query) (p : Profile) : String :=
  Mutagenesis.fingerprint p q.prompt q.options

/-- The queries of one cached model and the slots there are. -/
structure State where
  world : World
  queries : List Query
  /-- The slots by fingerprint. -/
  slots : List (String × Nat)
  /-- The number of the next slot to be made. -/
  nextSlot : Nat

/-- A step of a query. -/
inductive Move where
  | take
  | lock
  | lookUp
  /-- The inner model answers. -/
  | reply (outcome : Except Failure Answer)
  | store
  | unlock
  | leave

namespace State

/-- The state in which queries are about to be made. -/
def start (world : World) (queries : List (String × Options)) : State where
  world := world
  queries := queries.map fun (prompt, options) => ⟨prompt, options, .arriving⟩
  slots := []
  nextSlot := 0

/-- The state with a query at another stage. -/
def setStage (s : State) (i : Nat) (stage : Stage) : State :=
  { s with queries := s.queries.modify i fun q => { q with stage := stage } }

/-- Whether some query has taken a slot and not left it. -/
def isTaken (s : State) (slot : Nat) : Bool := s.queries.any (·.stage.slot? = some slot)

/-- Whether some query holds the lock of a slot. -/
def isLocked (s : State) (slot : Nat) : Bool := s.queries.any (·.stage.locked? = some slot)

/-- The slot of a fingerprint, and the state in which there is one. -/
def slotFor (s : State) (fingerprint : String) : Nat × State :=
  match s.slots.lookup fingerprint with
  | some slot => (slot, s)
  | none =>
      (s.nextSlot,
        { s with slots := (fingerprint, s.nextSlot) :: s.slots, nextSlot := s.nextSlot + 1 })

/-- Takes a slot away when no query has it any more. -/
def dropSlot (s : State) (fingerprint : String) (slot : Nat) : State :=
  if s.isTaken slot then s else { s with slots := s.slots.filter fun x => x.1 ≠ fingerprint }

/-- The state after a step of the query with the given index, if it can take the step. -/
def move? (p : Profile) (folder : Path) (s : State) (i : Nat) (move : Move) : Option State := do
  let q ← s.queries[i]?
  let fingerprint := q.fingerprint p
  match move, q.stage with
  | .take, .arriving =>
      let (slot, s) := s.slotFor fingerprint
      return s.setStage i (.waiting slot)
  | .lock, .waiting slot => if s.isLocked slot then none else some (s.setStage i (.holding slot))
  | .lookUp, .holding slot =>
      match Cache.lookup s.world folder fingerprint with
      | some answer => return s.setStage i (.finishing slot (.ok answer))
      | none => return s.setStage i (.asking slot)
  | .reply (.ok answer), .asking slot => return s.setStage i (.storing slot answer)
  | .reply (.error failure), .asking slot =>
      return s.setStage i (.finishing slot (.error failure))
  | .store, .storing slot answer =>
      let world := (Cache.store s.world folder (Cache.entryOf p q.prompt q.options answer)).2
      return { s with world := world }.setStage i (.finishing slot (.ok answer))
  | .unlock, .finishing slot outcome => return s.setStage i (.leaving slot outcome)
  | .leave, .leaving slot outcome =>
      return (s.setStage i (.done outcome)).dropSlot fingerprint slot
  | _, _ => none

/-- What came of each query, as far as it is done. -/
def outcomes (s : State) : List (Option (Except Failure Answer)) :=
  s.queries.map fun q => match q.stage with
    | .done outcome => some outcome
    | _ => none

end State

end Mutagenesis.Flight
