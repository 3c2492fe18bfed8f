import Mutagenesis.Model.Pacing

/-!
# Runs of a live model

The queries of a live model take their steps in any order, and between two steps any time may pass.
What can be seen of a query is noted in a log: when it is made, when each of its attempts starts,
when one fails that is to be repeated, and when the query ends.
-/
namespace Mutagenesis.Pacing

/-! ## Steps -/

/-- What a step of a query at a stage makes of a state. -/
inductive Steps (attempts : Nat) (t : Throttle) (s : State) (i : Nat) : Stage → Move → State → Prop
  | make : Steps attempts t s i .arriving .make (s.setStage i (.queued 1))
  | enter {k : Nat} (free : s.isHeld = false) :
      Steps attempts t s i (.queued k) .enter
        (s.setStage i (.holding k (readyAt t s.live.lastRequest s.live.now)))
  | send {k ready : Nat} (time : ready ≤ s.live.now) :
      Steps attempts t s i (.holding k ready) .send
        ({ s with live := { s.live with lastRequest := some s.live.now } }.setStage i (.sending k))
  | finish {k : Nat} {outcome : Except Failure Reply} {ending : Attempts Reply}
      (ends : ending? attempts k outcome = some ending) :
      Steps attempts t s i (.sending k) (.reply outcome)
        ({ s with live := (Live.settle ending s.live).2 }.setStage i
          (.done (Live.settle ending s.live).1))
  | fail {k : Nat} {outcome : Except Failure Reply}
      (repeats : ending? attempts k outcome = none) :
      Steps attempts t s i (.sending k) (.reply outcome)
        ({ s with live := { s.live with draws := s.live.draws.tail } }.setStage i
          (.pausing k (s.live.now + t.retryDelay k s.nextDraw)))
  | wake {k wakeAt : Nat} (time : wakeAt ≤ s.live.now) :
      Steps attempts t s i (.pausing k wakeAt) .wake (s.setStage i (.queued (k + 1)))

variable {attempts : Nat} {t : Throttle} {s s' : State} {i j : Nat} {move : Move}
  {stage stage' next : Stage}

/-- A state after a step has come of one of the steps of a query. -/
theorem steps_of_move? (h : s.move? attempts t i move = some s') :
    ∃ stage, s.queries[i]? = some stage ∧ Steps attempts t s i stage move s' := by
  unfold State.move? at h
  cases hstage : s.queries[i]? with
  | none => simp [hstage] at h
  | some stage =>
      refine ⟨stage, rfl, ?_⟩
      simp only [hstage, Option.bind_eq_bind, Option.bind_some] at h
      split at h
      next =>
        obtain rfl := Option.some.inj h
        exact .make
      next =>
        split at h
        next => simp at h
        next free =>
          obtain rfl := Option.some.inj h
          exact .enter (by simpa using free)
      next =>
        split at h
        next => simp at h
        next time =>
          obtain rfl := Option.some.inj h
          exact .send (Nat.le_of_not_lt time)
      next =>
        split at h
        next ending ends =>
          obtain rfl := Option.some.inj h
          exact .finish ends
        next repeats =>
          obtain rfl := Option.some.inj h
          exact .fail repeats
      next =>
        split at h
        next => simp at h
        next time =>
          obtain rfl := Option.some.inj h
          exact .wake (Nat.le_of_not_lt time)
      next => simp at h

/-- Each of these steps can be taken. -/
theorem Steps.move?_eq (steps : Steps attempts t s i stage move s')
    (hstage : s.queries[i]? = some stage) : s.move? attempts t i move = some s' := by
  cases steps with
  | make => simp [State.move?, hstage]
  | enter free => simp [State.move?, hstage, free]
  | send time | wake time => simp [State.move?, hstage, Nat.not_lt.2 time]
  | finish ends => simp [State.move?, hstage, ends]
  | fail repeats => simp [State.move?, hstage, repeats]

/-! ## Stages of queries -/

namespace State

/-- The queries that are about to be made. -/
theorem stage_of_start {live : Live Unit} {number : Nat}
    (hstage : (start live number).queries[i]? = some stage) : stage = .arriving :=
  (List.mem_replicate.1 (List.mem_of_getElem? hstage)).2

/-- The stage of a query after one of them has come to another stage. -/
theorem stage_of_setStage (h : (s.setStage i next).queries[j]? = some stage) :
    j = i ∧ stage = next ∨ j ≠ i ∧ s.queries[j]? = some stage := by
  rw [setStage, List.getElem?_set] at h
  split at h
  next same =>
    subst same
    split at h
    next => exact .inl ⟨rfl, (Option.some.inj h).symm⟩
    next => cases h
  next differ => exact .inr ⟨Ne.symm differ, h⟩

/-- No query is in the limiter when it is free. -/
theorem isHolding_of_isHeld (free : s.isHeld = false) (hstage : s.queries[i]? = some stage) :
    stage.isHolding = false := by
  have none_holds := List.any_eq_false.1 free stage (List.mem_of_getElem? hstage)
  simpa using none_holds

end State

/-! ## Logs -/

/-- What is noted of a query. -/
inductive Act where
  | made
  | started (attempt : Nat)
  /-- The attempt has failed and is to be repeated after the delay of the draw. -/
  | failed (attempt draw : Nat)
  | finished (outcome : Except Failure Answer)

/-- What a query does, and when. -/
structure Note where
  query : Nat
  time : Nat
  act : Act

/-- When the note is of the start of a request, its time. -/
def Note.start? (n : Note) : Option Nat :=
  match n.act with
  | .started _ => some n.time
  | _ => none

/-- When requests have started. -/
def starts (log : List Note) : List Nat := log.filterMap Note.start?

@[simp] theorem starts_append (log more : List Note) :
    starts (log ++ more) = starts log ++ starts more := List.filterMap_append

/-- What is noted of a step from a state that brings a query to a stage. -/
def act? (s : State) : Move → Stage → Option Act
  | .make, _ => some .made
  | .send, .sending attempt => some (.started attempt)
  | .reply _, .pausing attempt _ => some (.failed attempt s.nextDraw)
  | .reply _, .done outcome => some (.finished outcome)
  | _, _ => none

/-- What is noted of a step of a query from the state `s` to the state `s'`. -/
def notes (s s' : State) (i : Nat) (move : Move) : List Note :=
  match s'.queries[i]? with
  | some stage => ((act? s move stage).map fun act => ⟨i, s.live.now, act⟩).toList
  | none => []

/-- A query that comes to a stage is noted as it gets there. -/
theorem notes_eq (hstage : s.queries[i]? = some stage) (live : Live Unit) (next : Stage)
    (move : Move) : notes s ({ s with live := live }.setStage i next) i move =
      ((act? s move next).map fun act => ⟨i, s.live.now, act⟩).toList := by
  obtain ⟨inside, -⟩ := List.getElem?_eq_some_iff.1 hstage
  simp [notes, State.setStage, inside]

/-! ## Runs -/

/-- The states that the queries of a live model come to, with what has been noted until then. -/
inductive Reaches (attempts : Nat) (t : Throttle) (live : Live Unit) (number : Nat) :
    List Note → State → Prop
  | start : Reaches attempts t live number [] (.start live number)
  | moved {log : List Note} {s s' : State} {i : Nat} {move : Move}
      (run : Reaches attempts t live number log s) (step : s.move? attempts t i move = some s') :
      Reaches attempts t live number (log ++ notes s s' i move) s'
  | passed {log : List Note} {s : State} (run : Reaches attempts t live number log s)
      (elapsed : Nat) : Reaches attempts t live number log (s.later elapsed)

end Mutagenesis.Pacing
