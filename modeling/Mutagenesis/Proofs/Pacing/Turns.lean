import Mutagenesis.Proofs.Model.Requests
import Mutagenesis.Proofs.Pacing.Spacing

/-!
# Queries made one after another

A query that no other one gets in the way of takes its steps as soon as it can: that is how a live
model runs its queries. When the transport answers at once, each of its attempts starts as early as
the throttle allows.
-/
namespace Mutagenesis

open Pacing

variable {τ : Type}

/-- A transport that keeps when it is given requests. -/
def Transport.timed (transport : Transport τ) : Transport (τ × List Nat) where
  send request time s :=
    let (outcome, elapsed, side) := transport.send request time s.1
    (outcome, elapsed, side, s.2 ++ [time])

namespace Live

/-- What a live model remembers, without the other side of its transport. -/
def plain (s : Live τ) : Live Unit := { s with transport := () }

/-- What a live model remembers, with the times at which its transport has been given requests. -/
def withTimes (s : Live τ) (times : List Nat) : Live (τ × List Nat) :=
  { s with transport := (s.transport, times) }

/-- What a live model remembers, without these times. -/
def withoutTimes (s : Live (τ × List Nat)) : Live τ := { s with transport := s.transport.1 }

/-- Makes queries one after another, each some time after the one before has come to its end. -/
def queryInTurn (attempts : Nat) (t : Throttle) (transport : Transport τ) :
    List (Nat × Request) → Live τ → List (Except Failure Answer) × Live τ
  | [], s => ([], s)
  | (wait, request) :: rest, s =>
      let (outcome, s) := query attempts t transport request { s with now := s.now + wait }
      let (outcomes, s) := queryInTurn attempts t transport rest s
      (outcome :: outcomes, s)

theorem settle_plain (ending : Attempts Reply) (s : Live τ) :
    settle ending s.plain = ((settle ending s).1, (settle ending s).2.plain) := by
  cases ending <;> rfl

/-- What comes of a series of attempts is counted, and nothing else changes. -/
theorem exists_settle_eq (ending : Attempts Reply) (s : Live τ) :
    ∃ counter, (settle ending s).2 = { s with counter := counter } := by
  cases ending <;> exact ⟨_, rfl⟩

/-! ## Keeping the times -/

/-- Series of attempts that correspond, one by one, correspond. -/
theorem attemptFrom_map {σ ρ α : Type} (image : σ → ρ) {f : Nat → σ → Except Failure α × σ}
    {f' : Nat → ρ → Except Failure α × ρ} {g : Nat → σ → σ} {g' : Nat → ρ → ρ}
    (attempted : ∀ n s, f' n (image s) = ((f n s).1, image (f n s).2))
    (paused : ∀ n s, g' n (image s) = image (g n s)) (n left : Nat) (s : σ) :
    attemptFrom f' g' n left (image s) =
      ((attemptFrom f g n left s).1, image (attemptFrom f g n left s).2) := by
  fun_induction attemptFrom f g n left s with
  | case1 n left s value s' tried =>
      exact attemptFrom_of_ok (by rw [attempted, tried])
  | case2 n left s failure s' tried final =>
      exact attemptFrom_of_final (by rw [attempted, tried]) (by simpa using final)
  | case3 n s failure s' tried passing =>
      exact attemptFrom_of_last (by rw [attempted, tried]) (by simpa using passing)
  | case4 n s failure s' tried passing left ih =>
      rw [attemptFrom_of_transient (by rw [attempted, tried]) (by simpa using passing), paused, ih]

/-- Keeping the times changes nothing else about a query. -/
theorem query_withoutTimes (attempts : Nat) (t : Throttle) (transport : Transport τ)
    (request : Request) (s : Live (τ × List Nat)) :
    query attempts t transport request s.withoutTimes =
      ((query attempts t transport.timed request s).1,
        (query attempts t transport.timed request s).2.withoutTimes) := by
  have settled (ending : Attempts Reply) (s : Live (τ × List Nat)) :
      settle ending s.withoutTimes = ((settle ending s).1, (settle ending s).2.withoutTimes) := by
    cases ending <;> rfl
  simp only [query, withRetry]
  rw [attemptFrom_map (f := fun _ => attempt t transport.timed request) (g := pause t) withoutTimes
    (fun _ _ => rfl) (fun _ _ => rfl), settled]

/-- Nor about queries that are made one after another. -/
theorem queryInTurn_withoutTimes (attempts : Nat) (t : Throttle) (transport : Transport τ)
    (queries : List (Nat × Request)) (s : Live (τ × List Nat)) :
    queryInTurn attempts t transport queries s.withoutTimes =
      ((queryInTurn attempts t transport.timed queries s).1,
        (queryInTurn attempts t transport.timed queries s).2.withoutTimes) := by
  induction queries generalizing s with
  | nil => rfl
  | cons query rest ih =>
      let later : Live (τ × List Nat) := { s with now := s.now + query.1 }
      have first := query_withoutTimes attempts t transport query.2 later
      have waited : { s.withoutTimes with now := s.withoutTimes.now + query.1 } =
          later.withoutTimes := rfl
      simp only [queryInTurn, waited, first, ih, later]

end Live

namespace Pacing

/-- An attempt ends a series, or there is one left that follows after a pause. -/
theorem attemptFrom_of_ending? {σ : Type} {attempts k left : Nat}
    {f : Nat → σ → Except Failure Reply × σ} {g : Nat → σ → σ} {s s' : σ}
    {outcome : Except Failure Reply} (tried : f k s = (outcome, s'))
    (counted : k + left = max 1 attempts) :
    (∃ ending, ending? attempts k outcome = some ending ∧
      attemptFrom f g k left s = (ending, s')) ∨
    ∃ l, left = l + 1 ∧ ending? attempts k outcome = none ∧
      attemptFrom f g k left s = attemptFrom f g (k + 1) l (g k s') := by
  cases outcome with
  | ok reply => exact .inl ⟨_, rfl, attemptFrom_of_ok tried⟩
  | error failure =>
      cases transient : failure.isTransient with
      | false =>
          exact .inl ⟨_, by simp [ending?, transient], attemptFrom_of_final tried transient⟩
      | true =>
          cases left with
          | zero =>
              obtain rfl : k = max 1 attempts := counted
              exact .inl ⟨_, by simp [ending?, transient], attemptFrom_of_last tried transient⟩
          | succ l =>
              have early : ¬ max 1 attempts ≤ k := by omega
              exact .inr ⟨l, rfl, by simp [ending?, transient, early],
                attemptFrom_of_transient tried transient⟩

/-! ## A query that is left alone -/

section Alone

variable {attempts number : Nat} {t : Throttle} {live live' live'' : Live Unit} {s : State}
  {i : Nat} {stage next : Stage} {transport : Transport τ} {request : Request}

namespace State

/-- The state when the model remembers something else and a query is at another stage. -/
def along (s : State) (live : Live Unit) (i : Nat) (stage : Stage) : State :=
  { s with live := live }.setStage i stage

theorem along_setStage :
    { s.along live i stage with live := live' }.setStage i next = s.along live' i next := by
  simp [along, setStage, List.set_set]

theorem getElem?_along (inside : i < s.queries.length) :
    (s.along live i stage).queries[i]? = some stage := by
  simp [along, setStage, inside]

theorem isHeld_along (free : s.isHeld = false) (out : stage.isHolding = false) :
    (s.along live i stage).isHeld = false := by
  refine List.any_eq_false.2 fun other hother => ?_
  obtain ⟨j, hj⟩ := List.getElem?_of_mem hother
  obtain ⟨-, rfl⟩ | ⟨-, hj⟩ := stage_of_setStage (s := { s with live := live }) hj
  · simp [out]
  · simp [isHolding_of_isHeld free hj]

end State

/-- A step of a query that is left alone. -/
theorem Reaches.along {log : List Note} {move : Move} (inside : i < s.queries.length)
    (run : Reaches attempts t live number log (s.along live' i stage))
    (steps : Steps attempts t (s.along live' i stage) i stage move
      ({ s.along live' i stage with live := live'' }.setStage i next)) :
    Reaches attempts t live number
      (log ++ ((act? (s.along live' i stage) move next).map
        fun act => ⟨i, live'.now, act⟩).toList) (s.along live'' i next) := by
  have here : (s.along live' i stage).queries[i]? = some stage := State.getElem?_along inside
  have moved := run.moved (steps.move?_eq here)
  rw [notes_eq here, State.along_setStage] at moved
  exact moved

/-- It enters the limiter, sleeps there, sends its request and gets the outcome. -/
theorem Reaches.attempt {log : List Note} {k : Nat} {x y : Live (τ × List Nat)}
    {outcome : Except Failure Reply} (inside : i < s.queries.length) (free : s.isHeld = false)
    (run : Reaches attempts t live number log (s.along x.plain i (.queued k)))
    (sent : Live.attempt t transport.timed request x = (outcome, y)) :
    ∃ time, y.transport.2 = x.transport.2 ++ [time] ∧
      Reaches attempts t live number (log ++ [⟨i, time, .started k⟩])
        (s.along y.plain i (.sending k)) := by
  obtain ⟨-, rfl⟩ := Prod.mk.inj sent
  have late : x.now ≤ readyAt t x.lastRequest x.now := by
    unfold readyAt
    split <;> omega
  let ready := readyAt t x.lastRequest x.now
  refine ⟨ready, rfl, ?_⟩
  -- it sleeps in the limiter
  have held : Reaches attempts t live number (log ++ []) (s.along x.plain i (.holding k ready)) :=
    run.along inside (.enter (State.isHeld_along free rfl))
  have slept : Reaches attempts t live number (log ++ [])
      (s.along { x.plain with now := x.now + (ready - x.now) } i (.holding k ready)) :=
    held.passed (ready - x.now)
  rw [Nat.add_sub_cancel' late, List.append_nil] at slept
  -- it sends its request and waits for the outcome
  have away : Reaches attempts t live number (log ++ [⟨i, ready, .started k⟩])
      (s.along { x.plain with now := ready, lastRequest := some ready } i (.sending k)) :=
    slept.along inside (.send (Nat.le_refl ready))
  exact away.passed (transport.timed.send request ready x.transport).2.1

/-- Its attempts follow one another until they end. -/
theorem Reaches.series {log : List Note} {k left : Nat} {x y : Live (τ × List Nat)}
    {ending : Attempts Reply} (inside : i < s.queries.length) (free : s.isHeld = false)
    (counted : k + left = max 1 attempts)
    (run : Reaches attempts t live number log (s.along x.plain i (.queued k)))
    (ended : attemptFrom (fun _ => Live.attempt t transport.timed request) (Live.pause t) k left x =
      (ending, y)) :
    ∃ more, y.transport.2 = x.transport.2 ++ starts more ∧
      Reaches attempts t live number (log ++ more)
        (s.along (Live.settle ending y).2.plain i (.done (Live.settle ending y).1)) := by
  rcases sent : Live.attempt t transport.timed request x with ⟨outcome, x'⟩
  obtain ⟨time, kept, tried⟩ := run.attempt inside free sent
  obtain ⟨ending', ends, last⟩ | ⟨l, hleft, repeats, further⟩ := attemptFrom_of_ending?
    (f := fun _ => Live.attempt t transport.timed request) (g := Live.pause t) sent counted
  · obtain ⟨rfl, rfl⟩ := Prod.mk.inj (last.symm.trans ended)
    have finished : Reaches attempts t live number
        (log ++ [⟨i, time, .started k⟩] ++
          [⟨i, x'.now, .finished (Live.settle ending' x'.plain).1⟩])
        (s.along (Live.settle ending' x'.plain).2 i (.done (Live.settle ending' x'.plain).1)) :=
      tried.along inside (.finish ends)
    rw [Live.settle_plain, List.append_assoc] at finished
    exact ⟨[⟨i, time, .started k⟩, ⟨i, x'.now, .finished _⟩], kept, finished⟩
  · -- it sleeps, and the rest of the series follows
    let draw := x'.draws.headD 0
    let wakeAt := x'.now + t.retryDelay k draw
    let noted : List Note := [⟨i, time, .started k⟩, ⟨i, x'.now, .failed k draw⟩]
    have failed : Reaches attempts t live number
        (log ++ [⟨i, time, .started k⟩] ++ [⟨i, x'.now, .failed k draw⟩])
        (s.along { x'.plain with draws := x'.draws.tail } i (.pausing k wakeAt)) :=
      tried.along inside (.fail repeats)
    rw [List.append_assoc] at failed
    have slept : Reaches attempts t live number (log ++ noted)
        (s.along (Live.pause t k x').plain i (.pausing k wakeAt)) :=
      failed.passed (t.retryDelay k draw)
    have woken : Reaches attempts t live number (log ++ noted ++ [])
        (s.along (Live.pause t k x').plain i (.queued (k + 1))) :=
      slept.along inside (.wake (Nat.le_refl wakeAt))
    rw [List.append_nil] at woken
    obtain ⟨more, later, done⟩ :=
      Reaches.series inside free (by omega) woken (further.symm.trans ended)
    have same : (Live.pause t k x').transport.2 = x.transport.2 ++ starts noted := kept
    refine ⟨noted ++ more, ?_, by rwa [← List.append_assoc]⟩
    rw [later, same, starts_append, List.append_assoc]
termination_by left

/-- It is made and comes to its end as a query of the live model does. -/
theorem Reaches.query {log : List Note} {x y : Live (τ × List Nat)}
    {outcome : Except Failure Answer} (here : s.queries[i]? = some .arriving)
    (free : s.isHeld = false) (same : s.live = x.plain)
    (run : Reaches attempts t live number log s)
    (answered : Live.query attempts t transport.timed request x = (outcome, y)) :
    ∃ more, y.transport.2 = x.transport.2 ++ starts more ∧
      Reaches attempts t live number (log ++ more) (s.along y.plain i (.done outcome)) := by
  obtain ⟨inside, -⟩ := List.getElem?_eq_some_iff.1 here
  have made : Reaches attempts t live number (log ++ [⟨i, s.live.now, .made⟩])
      (s.along x.plain i (.queued 1)) := by
    have moved := run.moved (Steps.make.move?_eq here)
    rw [notes_eq here s.live] at moved
    rw [← same]
    exact moved
  rcases ended : attemptFrom (fun _ => Live.attempt t transport.timed request) (Live.pause t) 1
    (attempts - 1) x with ⟨ending, z⟩
  obtain ⟨more, kept, done⟩ := made.series inside free (by omega) ended
  have settled : Live.settle ending z = (outcome, y) := by
    rw [← answered, Live.query, withRetry, ended]
  obtain ⟨counter, counted⟩ := Live.exists_settle_eq ending z
  rw [settled] at done counted
  obtain rfl : y = { z with counter := counter } := counted
  exact ⟨⟨i, s.live.now, .made⟩ :: more, kept, by simpa using done⟩

/-- Queries that are made one after another are a run. -/
theorem Reaches.queryInTurn {queries : List (Nat × Request)} {log : List Note} {s : State}
    {earlier : List Stage} {x y : Live (τ × List Nat)} {outcomes : List (Except Failure Answer)}
    (arriving : s.queries = earlier ++ List.replicate queries.length .arriving)
    (free : s.isHeld = false) (same : s.live = x.plain)
    (run : Reaches attempts t live number log s)
    (answered : Live.queryInTurn attempts t transport.timed queries x = (outcomes, y)) :
    ∃ more, y.transport.2 = x.transport.2 ++ starts more ∧
      Reaches attempts t live number (log ++ more) ⟨y.plain, earlier ++ outcomes.map .done⟩ := by
  induction queries generalizing log s earlier x outcomes with
  | nil =>
      obtain ⟨rfl, rfl⟩ := Prod.mk.inj answered
      have whole : s.queries = earlier := by simpa using arriving
      refine ⟨[], by simp [starts], ?_⟩
      rw [← same, ← whole, List.map_nil, List.append_nil, List.append_nil]
      exact run
  | cons query rest ih =>
      obtain ⟨wait, request⟩ := query
      let x' : Live (τ × List Nat) := { x with now := x.now + wait }
      rcases first : Live.query attempts t transport.timed request x' with ⟨outcome, z⟩
      rcases others : Live.queryInTurn attempts t transport.timed rest z with ⟨outcomes', y'⟩
      simp only [Live.queryInTurn, x', first, others, Prod.mk.injEq] at answered
      obtain ⟨rfl, rfl⟩ := answered
      -- the first query is the one after the earlier ones
      have here : (s.later wait).queries[earlier.length]? = some .arriving := by
        simp [State.later, arriving]
      have same' : (s.later wait).live = x'.plain := by
        simp [State.later, same, x', Live.plain]
      obtain ⟨more, kept, done⟩ := (run.passed wait).query here free same' first
      have rest_arriving : ((s.later wait).along z.plain earlier.length (.done outcome)).queries =
          (earlier ++ [.done outcome]) ++ List.replicate rest.length .arriving := by
        simp [State.along, State.setStage, State.later, arriving, List.replicate_succ]
      obtain ⟨more', kept', done'⟩ := ih rest_arriving (State.isHeld_along free rfl) rfl done others
      refine ⟨more ++ more', ?_, by simpa using done'⟩
      rw [kept', kept, starts_append, List.append_assoc]

end Alone

end Pacing

/-! ## Queries that are answered at once -/

/-- Whether the attempts of a query start as early as a throttle allows when they are answered at
once: the first one when the interval after the last request is over, each further one when the
interval and the delay after the failure of the one before are. -/
structure Live.IsPunctual (t : Throttle) (s : Live τ) (times : List Nat) : Prop where
  first : times.head? = some (readyAt t s.lastRequest s.now)
  next : ∀ k time time', times[k]? = some time → times[k + 1]? = some time' →
    time' = time + max t.interval (t.retryDelay (k + 1) (s.draws.getD k 0))

namespace Live

variable {attempts : Nat} {t : Throttle} {transport : Transport τ} {request : Request}

/-- An attempt that is answered at once. -/
theorem attempt_of_instant (t : Throttle) (request : Request)
    (instant : ∀ request time side, (transport.send request time side).2.1 = 0)
    (s : Live (τ × List Nat)) :
    let ready := readyAt t s.lastRequest s.now
    ∃ outcome side, attempt t transport.timed request s = (outcome,
      ⟨(side, s.transport.2 ++ [ready]), ready, some ready, s.counter, s.draws⟩) := by
  intro ready
  have at_once : (transport.timed.send request ready s.transport).2.1 = 0 :=
    instant request ready s.transport.1
  refine ⟨(transport.send request ready s.transport.1).1,
    (transport.send request ready s.transport.1).2.2, ?_⟩
  simp only [attempt]
  rw [at_once]
  rfl

/-- The attempts of a series that are answered at once start as early as they may. -/
theorem exists_times_of_attemptFrom
    (instant : ∀ request time side, (transport.send request time side).2.1 = 0)
    {n left : Nat} (first : 1 ≤ n) {s s' : Live (τ × List Nat)} {ending : Attempts Reply}
    (ended : attemptFrom (fun _ => attempt t transport.timed request) (pause t) n left s =
      (ending, s')) :
    ∃ times, s'.transport.2 = s.transport.2 ++ times ∧ s'.lastRequest = times.getLast? ∧
      times.head? = some (readyAt t s.lastRequest s.now) ∧
      ∀ k time time', times[k]? = some time → times[k + 1]? = some time' →
        time' = time + max t.interval (t.retryDelay (n + k) (s.draws.getD k 0)) := by
  obtain ⟨outcome, side, sent⟩ := attempt_of_instant t request instant s
  have counted : n + left = max 1 (n + left) := by omega
  generalize readyAt t s.lastRequest s.now = ready at sent ⊢
  obtain ⟨ending', -, last⟩ | ⟨l, hleft, -, further⟩ := attemptFrom_of_ending?
    (f := fun _ => attempt t transport.timed request) (g := pause t) sent counted
  · obtain ⟨-, rfl⟩ := Prod.mk.inj (last.symm.trans ended)
    exact ⟨[ready], rfl, rfl, rfl, by simp⟩
  · -- the next attempt may start when the delay and the interval are over
    let delay := t.retryDelay n (s.draws.headD 0)
    obtain ⟨times, kept, latest, next, gaps⟩ :=
      exists_times_of_attemptFrom instant (Nat.le_add_left 1 n) (further.symm.trans ended)
    obtain ⟨rest, rfl⟩ : ∃ rest, times = (ready + max t.interval delay) :: rest := by
      have spaced : max (ready + delay) (ready + t.interval) = ready + max t.interval delay := by
        omega
      obtain ⟨rest, rfl⟩ := List.head?_eq_some_iff.1 next
      exact ⟨rest, congrArg (· :: rest) spaced⟩
    refine ⟨ready :: (ready + max t.interval delay) :: rest, ?_, latest, rfl, ?_⟩
    · rw [kept]
      exact List.append_assoc ..
    · intro k time time' htime htime'
      cases k with
      | zero =>
          obtain rfl := Option.some.inj htime
          obtain rfl := Option.some.inj htime'
          cases hdraws : s.draws <;> simp [delay, hdraws]
      | succ k =>
          have gap := gaps k time time' htime htime'
          have draw : (pause t n ⟨(side, s.transport.2 ++ [ready]), ready, some ready, s.counter,
              s.draws⟩).draws.getD k 0 = s.draws.getD (k + 1) 0 := by
            cases hdraws : s.draws <;> simp [pause]
          rwa [draw, Nat.succ_add] at gap
termination_by left

/-- The attempts of a query that are answered at once start as early as they may. -/
theorem exists_isPunctual
    (instant : ∀ request time side, (transport.send request time side).2.1 = 0) {s s' : Live τ}
    {outcome : Except Failure Answer}
    (answered : query attempts t transport request s = (outcome, s')) :
    ∃ times, query attempts t transport.timed request (s.withTimes []) =
        (outcome, s'.withTimes times) ∧
      IsPunctual t s times ∧ s'.lastRequest = times.getLast? := by
  have kept := query_withoutTimes attempts t transport request (s.withTimes [])
  have same : (s.withTimes []).withoutTimes = s := rfl
  rw [same, answered] at kept
  rcases ended : attemptFrom (fun _ => attempt t transport.timed request) (pause t) 1
    (attempts - 1) (s.withTimes []) with ⟨ending, z⟩
  obtain ⟨times, recorded, latest, first, next⟩ :=
    exists_times_of_attemptFrom instant (Nat.le_refl 1) ended
  have settled : query attempts t transport.timed request (s.withTimes []) = settle ending z := by
    rw [query, withRetry, ended]
  obtain ⟨counter, counted⟩ := exists_settle_eq ending z
  rw [settled] at kept ⊢
  obtain ⟨rfl, rfl⟩ := Prod.mk.inj kept
  refine ⟨times, ?_, ⟨first, fun k time time' htime htime' => ?_⟩, ?_⟩
  · refine Prod.ext rfl ?_
    have times_eq : z.transport.2 = times := recorded
    rw [counted, ← times_eq]
    rfl
  · rw [Nat.add_comm k 1]
    exact next k time time' htime htime'
  · rw [counted]
    exact latest

end Live

/-! ## Requests keep their distances -/

namespace Pacing

/-- However the queries of a live model get in each other's way, whatever their requests meet with
and whenever it comes, requests start at least an interval apart, and an attempt that is repeated
starts when the delay after its failure is over. Queries that are made one after another are such a
run. Of these, the ones that are answered at once start each attempt as soon as that is so. -/
theorem requests_keep_distance (attempts : Nat) (t : Throttle) :
    (∀ live number log s, Reaches attempts t live number log s →
      IsSpaced t live.lastRequest log) ∧
    ∀ (τ : Type) (transport : Transport τ) (s : Live τ),
      (∀ queries outcomes s',
        Live.queryInTurn attempts t transport queries s = (outcomes, s') →
        ∃ log, Reaches attempts t s.plain queries.length log ⟨s'.plain, outcomes.map .done⟩ ∧
          Live.queryInTurn attempts t transport.timed queries (s.withTimes []) =
            (outcomes, s'.withTimes (starts log))) ∧
      ((∀ request time side, (transport.send request time side).2.1 = 0) →
        ∀ request outcome s', Live.query attempts t transport request s = (outcome, s') →
        ∃ times, Live.query attempts t transport.timed request (s.withTimes []) =
            (outcome, s'.withTimes times) ∧
          Live.IsPunctual t s times ∧ s'.lastRequest = times.getLast?) := by
  refine ⟨fun live number log s run => run.paced.spaced, fun τ transport s => ⟨?_, ?_⟩⟩
  · intro queries outcomes s' answered
    rcases timed : Live.queryInTurn attempts t transport.timed queries (s.withTimes []) with
      ⟨outcomes', y⟩
    have kept := Live.queryInTurn_withoutTimes attempts t transport queries (s.withTimes [])
    have same : (s.withTimes []).withoutTimes = s := rfl
    rw [same, answered, timed] at kept
    obtain ⟨rfl, rfl⟩ := Prod.mk.inj kept
    have begun : Reaches attempts t s.plain queries.length [] (.start s.plain queries.length) :=
      .start
    have arriving : (State.start s.plain queries.length).queries =
        [] ++ List.replicate queries.length .arriving := rfl
    obtain ⟨log, times, run⟩ := begun.queryInTurn arriving
      (by simp [State.isHeld, State.start, Stage.isHolding]) rfl timed
    refine ⟨log, run, Prod.ext rfl ?_⟩
    have times : y.transport.2 = starts log := times
    rw [← times]
    rfl
  · intro instant request outcome s' answered
    exact Live.exists_isPunctual instant answered

/-- Two queries get in each other's way: while the first one is in the limiter the second one waits,
and while the first one sleeps after a failure the second one sends its request. A query that fails
once and is made a while after a request starts its attempts when the interval is over. -/
theorem requests_keep_distance_of_two :
    let t : Throttle := .fixed 500
    let down : Except Failure Reply := .error (.transport "down")
    let transport : Transport (List (Except Failure Reply)) :=
      ⟨fun _ _ side => (side.headD down, 0, side.tail)⟩
    let live : Live Unit := ⟨(), 0, none, .zero, []⟩
    let s : Live (List (Except Failure Reply)) := ⟨[down, .ok ⟨[], none⟩], 700, some 600, .zero, []⟩
    let request := Request.ofPrompt ⟨"m", .zero, 1, ""⟩ "1" .none
    (∃ log s', Reaches 2 t live 2 log s' ∧ starts log = [0, 500, 1000] ∧ IsSpaced t none log) ∧
    (∀ request time side, (transport.send request time side).2.1 = 0) ∧
    ∃ outcome s', Live.query 2 t transport request s = (outcome, s') ∧
      Live.queryInTurn 2 t transport [(0, request)] s = ([outcome], s') ∧
      (∃ log, Reaches 2 t s.plain 1 log ⟨s'.plain, [.done outcome]⟩ ∧ starts log = [1100, 1600]) ∧
      Live.IsPunctual t s [1100, 1600] ∧ s'.lastRequest = some 1600 := by
  intro t down transport live s request
  refine ⟨?_, fun _ _ _ => rfl, ?_⟩
  · let state (now : Nat) (last : Option Nat) (first second : Stage) : State :=
      ⟨⟨(), now, last, .zero, []⟩, [first, second]⟩
    have begun : Reaches 2 t live 2 [] (state 0 none .arriving .arriving) := .start
    have made : (state 0 none .arriving .arriving).move? 2 t 0 .make =
      some (state 0 none (.queued 1) .arriving) := rfl
    have joined : (state 0 none (.queued 1) .arriving).move? 2 t 1 .make =
      some (state 0 none (.queued 1) (.queued 1)) := rfl
    have entered : (state 0 none (.queued 1) (.queued 1)).move? 2 t 0 .enter =
      some (state 0 none (.holding 1 0) (.queued 1)) := rfl
    have sent : (state 0 none (.holding 1 0) (.queued 1)).move? 2 t 0 .send =
      some (state 0 (some 0) (.sending 1) (.queued 1)) := rfl
    have followed : (state 0 (some 0) (.sending 1) (.queued 1)).move? 2 t 1 .enter =
      some (state 0 (some 0) (.sending 1) (.holding 1 500)) := rfl
    have failed : (state 0 (some 0) (.sending 1) (.holding 1 500)).move? 2 t 0 (.reply down) =
      some (state 0 (some 0) (.pausing 1 500) (.holding 1 500)) := rfl
    have other : (state 500 (some 0) (.pausing 1 500) (.holding 1 500)).move? 2 t 1 .send =
      some (state 500 (some 500) (.pausing 1 500) (.sending 1)) := rfl
    have woken : (state 500 (some 500) (.pausing 1 500) (.sending 1)).move? 2 t 0 .wake =
      some (state 500 (some 500) (.queued 2) (.sending 1)) := rfl
    have again : (state 500 (some 500) (.queued 2) (.sending 1)).move? 2 t 0 .enter =
      some (state 500 (some 500) (.holding 2 1000) (.sending 1)) := rfl
    have last : (state 1000 (some 500) (.holding 2 1000) (.sending 1)).move? 2 t 0 .send =
      some (state 1000 (some 1000) (.sending 2) (.sending 1)) := rfl
    have slept := ((((((begun.moved made).moved joined).moved entered).moved sent).moved
      followed).moved failed).passed 500
    have run := ((((slept.moved other).moved woken).moved again).passed 500).moved last
    exact ⟨_, _, run, rfl, (requests_keep_distance 2 t).1 live 2 _ _ run⟩
  · obtain ⟨outcome, s', answered⟩ : ∃ outcome s', Live.query 2 t transport request s =
      (outcome, s') := ⟨_, _, rfl⟩
    have turn : Live.queryInTurn 2 t transport [(0, request)] s = ([outcome], s') := by
      simp only [Live.queryInTurn, Nat.add_zero, answered]
    have distances := (requests_keep_distance 2 t).2 _ transport s
    obtain ⟨log, run, noted⟩ := distances.1 _ _ _ turn
    obtain ⟨times, timed, punctual, latest⟩ := distances.2 (fun _ _ _ => rfl) _ _ _ answered
    have sent : (Live.query 2 t transport.timed request (s.withTimes [])).2.transport.2 =
        [1100, 1600] := by decide +kernel
    have sent' : (Live.queryInTurn 2 t transport.timed [(0, request)]
        (s.withTimes [])).2.transport.2 = [1100, 1600] := by decide +kernel
    rw [timed] at sent
    rw [noted] at sent'
    obtain rfl : times = [1100, 1600] := sent
    exact ⟨outcome, s', answered, turn, ⟨log, run, sent'⟩, punctual, latest⟩

end Pacing

end Mutagenesis
