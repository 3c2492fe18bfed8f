import Mutagenesis.Model.Live

/-!
# Queries of a live model in the course of time

Queries that are made of one live model at the same time. Each of their attempts enters the
limiter, of which there is one, sleeps there until its request may be sent, sends it on leaving,
and waits for the outcome; before a repetition the query sleeps outside the limiter.
`State.move?` is one such step of one query. Queries may take their steps in any order, and any
time may pass between two steps.
-/
namespace Mutagenesis.Pacing

/-- How far a query has come. Attempts are numbered from one. -/
inductive Stage where
  | arriving
  /-- Waits for the limiter. -/
  | queued (attempt : Nat)
  /-- Is in the limiter and sleeps until its request may be sent. -/
  | holding (attempt ready : Nat)
  /-- Has sent its request and waits for the outcome. -/
  | sending (attempt : Nat)
  /-- Sleeps before it repeats the attempt. -/
  | pausing (attempt wakeAt : Nat)
  | done (outcome : Except Failure Answer)

namespace Stage

/-- Whether a query is in the limiter. -/
def isHolding : Stage → Bool
  | holding .. => true
  | _ => false

end Stage

/-- How far the queries of one live model have come, and what the model remembers. What is asked,
and what the other side does, is up to the moves. -/
structure State where
  live : Live Unit
  queries : List Stage

/-- A step of a query. -/
inductive Move where
  | make
  | enter
  | send
  /-- The outcome of the request is there. -/
  | reply (outcome : Except Failure Reply)
  | wake

/-- How a series of attempts ends with the outcome of the given one, if it does. -/
def ending? (attempts attempt : Nat) : Except Failure Reply → Option (Attempts Reply)
  | .ok reply => some (.success reply (attempt - 1))
  | .error failure =>
      if !failure.isTransient then some (.aborted (attempt - 1) failure)
      else if max 1 attempts ≤ attempt then some (.exhausted (max 1 attempts) failure)
      else none

namespace State

/-- The state in which so many queries are about to be made. -/
def start (live : Live Unit) (number : Nat) : State := ⟨live, List.replicate number .arriving⟩

/-- The state with a query at another stage. -/
def setStage (s : State) (i : Nat) (stage : Stage) : State :=
  { s with queries := s.queries.set i stage }

/-- The state after some time has passed. -/
def later (s : State) (elapsed : Nat) : State :=
  { s with live := { s.live with now := s.live.now + elapsed } }

/-- Whether some query is in the limiter. -/
def isHeld (s : State) : Bool := s.queries.any (·.isHolding)

/-- The draw for the next delay. -/
def nextDraw (s : State) : Nat := s.live.draws.headD 0

/-- The state after a step of the query with the given index, if it can take the step. -/
def move? (attempts : Nat) (t : Throttle) (s : State) (i : Nat) (move : Move) : Option State := do
  let stage ← s.queries[i]?
  match move, stage with
  | .make, .arriving => return s.setStage i (.queued 1)
  | .enter, .queued attempt =>
      if s.isHeld then none
      else some (s.setStage i (.holding attempt (readyAt t s.live.lastRequest s.live.now)))
  | .send, .holding attempt ready =>
      if s.live.now < ready then none
      else
        let live := { s.live with lastRequest := some s.live.now }
        some ({ s with live := live }.setStage i (.sending attempt))
  | .reply outcome, .sending attempt =>
      match ending? attempts attempt outcome with
      | some ending =>
          let (outcome, live) := Live.settle ending s.live
          return { s with live := live }.setStage i (.done outcome)
      | none =>
          let wakeAt := s.live.now + t.retryDelay attempt s.nextDraw
          let live := { s.live with draws := s.live.draws.tail }
          return { s with live := live }.setStage i (.pausing attempt wakeAt)
  | .wake, .pausing attempt wakeAt =>
      if s.live.now < wakeAt then none else some (s.setStage i (.queued (attempt + 1)))
  | _, _ => none

/-- What came of each query, as far as it is done. -/
def outcomes (s : State) : List (Option (Except Failure Answer)) :=
  s.queries.map fun stage => match stage with
    | .done outcome => some outcome
    | _ => none

end State

end Mutagenesis.Pacing
