import Mutagenesis.Proofs.Model.Requests

/-!
# The retries of a query

A series of attempts ends when an outcome is final or all attempts have been made, so its length
is a matter of the outcomes alone. A query is such a series of one request: what it answers and what
it counts comes from its last attempt, and its times from the throttle and what the attempts before
have taken. A transport that keeps a log of what it sends shows all of it and changes nothing else.
-/
namespace Mutagenesis

/-! ## The last attempt -/

section Attempts

variable {σ α : Type}

/-- Whether no attempt follows the outcome, however many are left. -/
def isFinal : Except Failure α → Bool
  | .ok _ => true
  | .error failure => !failure.isTransient

/-- The number of the last attempt: the first one with a final outcome among those that may be made,
or the last of these. -/
def lastAttempt (attempts : Nat) (outcome : Nat → Except Failure α) : Nat :=
  ((List.range' 1 (max 1 attempts)).find? fun n => isFinal (outcome n)).getD (max 1 attempts)

/-- What makes an attempt the last one. -/
structure IsLast (attempts : Nat) (outcome : Nat → Except Failure α) (n : Nat) : Prop where
  first : 1 ≤ n
  most : n ≤ max 1 attempts
  repeated : ∀ k, 1 ≤ k → k < n → isFinal (outcome k) = false
  ends : isFinal (outcome n) = true ∨ n = max 1 attempts

variable {attempts n : Nat} {outcome outcome' : Nat → Except Failure α}

theorem IsLast.lastAttempt_eq (last : IsLast attempts outcome n) :
    lastAttempt attempts outcome = n := by
  have := last.first
  have := last.most
  unfold lastAttempt
  cases found : (List.range' 1 (max 1 attempts)).find? fun n => isFinal (outcome n) with
  | none =>
      rw [List.find?_range'_eq_none] at found
      obtain ends | full := last.ends
      · simpa [ends] using found n (by omega) (by omega)
      · exact full.symm
  | some m =>
      obtain ⟨ends, inside, before⟩ := List.find?_range'_eq_some.1 found
      rw [List.mem_range'_1] at inside
      obtain less | rfl | more := Nat.lt_trichotomy m n
      · simp [last.repeated m (by omega) less] at ends
      · rfl
      · obtain ends' | full := last.ends
        · simpa [ends'] using before n (by omega) more
        · omega

theorem isLast_lastAttempt (attempts : Nat) (outcome : Nat → Except Failure α) :
    IsLast attempts outcome (lastAttempt attempts outcome) := by
  unfold lastAttempt
  cases found : (List.range' 1 (max 1 attempts)).find? fun n => isFinal (outcome n) with
  | none =>
      rw [List.find?_range'_eq_none] at found
      have none_final : ∀ k, 1 ≤ k → k < max 1 attempts → isFinal (outcome k) = false :=
        fun k first before => by simpa using found k first (by omega)
      exact ⟨Nat.le_max_left 1 attempts, Nat.le_refl _, none_final, .inr rfl⟩
  | some m =>
      obtain ⟨ends, inside, before⟩ := List.find?_range'_eq_some.1 found
      rw [List.mem_range'_1] at inside
      exact ⟨inside.1, by simp only [Option.getD_some]; omega,
        fun k first less => by simpa using before k first less, .inl ends⟩

/-- One attempt is made when none may be. -/
example : lastAttempt 0 (fun _ => (.error (.transport "down") : Except Failure Unit)) = 1 := by
  decide

/-- Which attempt is the last one is up to the outcomes as far as it. -/
theorem IsLast.congr (last : IsLast attempts outcome n)
    (same : ∀ k, 1 ≤ k → k ≤ n → outcome' k = outcome k) : IsLast attempts outcome' n where
  first := last.first
  most := last.most
  repeated k first less := same k first (Nat.le_of_lt less) ▸ last.repeated k first less
  ends := same n last.first (Nat.le_refl n) ▸ last.ends

/-! ## The course of a series -/

variable (op : Nat → σ → Except Failure α × σ) (pause : Nat → σ → σ) (s : σ)

/-- The state after so many attempts and the pauses after each of them. -/
def afterPauses : Nat → σ
  | 0 => s
  | n + 1 => pause (n + 1) (op (n + 1) (afterPauses n)).2

/-- What comes of the attempt with the given number. -/
def attemptAt (n : Nat) : Except Failure α × σ := op n (afterPauses op pause s (n - 1))

/-- How a series ends with the outcome of the given attempt. -/
def Attempts.ofLast (n : Nat) : Except Failure α → Attempts α
  | .ok value => .success value (n - 1)
  | .error failure => if failure.isTransient then .exhausted n failure else .aborted (n - 1) failure

/-- How many attempts a series takes. -/
def attemptsTaken (attempts : Nat) : Nat :=
  lastAttempt attempts fun n => (attemptAt op pause s n).1

variable {op pause s}

/-- After some attempts that are repeated a series goes on to its last one. -/
theorem attemptFrom_afterPauses {left k : Nat} (number : k + left + 1 = max 1 attempts)
    (repeated : ∀ i, 1 ≤ i → i ≤ k → isFinal (attemptAt op pause s i).1 = false) :
    attemptFrom op pause (k + 1) left (afterPauses op pause s k) =
      let last := attemptAt op pause s (attemptsTaken op pause s attempts)
      (.ofLast (attemptsTaken op pause s attempts) last.1, last.2) := by
  have is_last (ends : isFinal (attemptAt op pause s (k + 1)).1 = true ∨ left = 0) :
      attemptsTaken op pause s attempts = k + 1 :=
    IsLast.lastAttempt_eq ⟨Nat.le_add_left 1 k, by omega,
      fun i first less => repeated i first (Nat.le_of_lt_succ less), ends.imp_right (by omega)⟩
  rcases tried : op (k + 1) (afterPauses op pause s k) with ⟨failure | value, s'⟩
  · have at_last : attemptAt op pause s (k + 1) = (.error failure, s') := tried
    cases transient : failure.isTransient with
    | false =>
        have ends : isFinal (attemptAt op pause s (k + 1)).1 = true := by
          simp [at_last, isFinal, transient]
        rw [attemptFrom_of_final tried transient, is_last (.inl ends), at_last]
        simp [Attempts.ofLast, transient]
    | true =>
        cases left with
        | zero =>
            rw [attemptFrom_of_last tried transient, is_last (.inr rfl), at_last]
            simp [Attempts.ofLast, transient]
        | succ left =>
            have paused : pause (k + 1) s' = afterPauses op pause s (k + 1) := by
              rw [afterPauses, tried]
            rw [attemptFrom_of_transient tried transient, paused]
            refine attemptFrom_afterPauses (by omega) fun i first most => ?_
            obtain rfl | before := Nat.eq_or_lt_of_le most
            · simp [at_last, isFinal, transient]
            · exact repeated i first (Nat.le_of_lt_succ before)
  · have at_last : attemptAt op pause s (k + 1) = (.ok value, s') := tried
    rw [attemptFrom_of_ok tried, is_last (.inl (by rw [at_last]; rfl)), at_last]
    rfl
termination_by left

/-- A series makes the attempts one, two and so on up to the last one, and a pause of the number of
the attempt before each further one. -/
theorem withRetry_eq (attempts : Nat) (op : Nat → σ → Except Failure α × σ) (pause : Nat → σ → σ)
    (s : σ) :
    withRetry attempts op pause s =
      let last := attemptAt op pause s (attemptsTaken op pause s attempts)
      (.ofLast (attemptsTaken op pause s attempts) last.1, last.2) :=
  attemptFrom_afterPauses (k := 0) (by omega) (by omega)

/-! ## What a series does -/

/-- What a series does, with the number that it does it with. -/
inductive Deed where
  | attempt (number : Nat)
  | pause (number : Nat)
  deriving DecidableEq, Repr

/-- An operation that notes its attempts. -/
def noting (op : Nat → σ → Except Failure α × σ) (n : Nat) (s : σ × List Deed) :
    Except Failure α × σ × List Deed :=
  ((op n s.1).1, (op n s.1).2, s.2 ++ [.attempt n])

/-- Pauses that are noted. -/
def notingPauses (pause : Nat → σ → σ) (n : Nat) (s : σ × List Deed) : σ × List Deed :=
  (pause n s.1, s.2 ++ [.pause n])

/-- Attempts from the first to the given one, with a pause between every two. -/
def deedsTo (n : Nat) : List Deed :=
  ((List.range' 1 (n - 1)).flatMap fun k => [.attempt k, .pause k]) ++ [.attempt n]

theorem afterPauses_noting (op : Nat → σ → Except Failure α × σ) (pause : Nat → σ → σ) (s : σ)
    (n : Nat) :
    afterPauses (noting op) (notingPauses pause) (s, []) n =
      (afterPauses op pause s n, (List.range' 1 n).flatMap fun k => [.attempt k, .pause k]) := by
  induction n with
  | zero => rfl
  | succ n ih =>
      rw [afterPauses, ih, List.range'_1_concat, List.flatMap_append, Nat.add_comm 1 n]
      simp [noting, notingPauses, afterPauses]

theorem attemptAt_noting (op : Nat → σ → Except Failure α × σ) (pause : Nat → σ → σ) (s : σ)
    (n : Nat) :
    attemptAt (noting op) (notingPauses pause) (s, []) n =
      ((attemptAt op pause s n).1, (attemptAt op pause s n).2, deedsTo n) := by
  simp [attemptAt, afterPauses_noting, noting, deedsTo]

/-- Noting what a series does changes nothing else. -/
theorem withRetry_noting (attempts : Nat) (op : Nat → σ → Except Failure α × σ)
    (pause : Nat → σ → σ) (s : σ) :
    withRetry attempts (noting op) (notingPauses pause) (s, []) =
      ((withRetry attempts op pause s).1, (withRetry attempts op pause s).2,
        deedsTo (attemptsTaken op pause s attempts)) := by
  have same : attemptsTaken (noting op) (notingPauses pause) (s, []) attempts =
      attemptsTaken op pause s attempts := by
    simp [attemptsTaken, attemptAt_noting]
  simp [withRetry_eq, same, attemptAt_noting]

end Attempts

/-! ## What a query sends -/

/-- A request that has been sent: when, what came of it and how many milliseconds that took. -/
structure Sending where
  request : Request
  time : Nat
  outcome : Except Failure Reply
  elapsed : Nat

variable {τ : Type}

/-- A transport that keeps a log of what it sends. -/
def Transport.logged (transport : Transport τ) : Transport (τ × List Sending) where
  send request time s :=
    let (outcome, elapsed, side) := transport.send request time s.1
    (outcome, elapsed, side, s.2 ++ [⟨request, time, outcome, elapsed⟩])

namespace Live

/-- What a live model remembers, with the log of its transport. -/
def withLog (s : Live τ) (log : List Sending) : Live (τ × List Sending) :=
  { s with transport := (s.transport, log) }

variable (t : Throttle) (transport : Transport τ) (request : Request) (s : Live τ)

/-- What an attempt sends. -/
def sending : Sending :=
  let time := readyAt t s.lastRequest s.now
  let (outcome, elapsed, _) := transport.send request time s.transport
  ⟨request, time, outcome, elapsed⟩

/-- The state before the attempt that follows so many others. -/
def beforeAttempt (k : Nat) : Live τ :=
  afterPauses (fun _ => attempt t transport request) (pause t) s k

/-- What so many attempts send. -/
def sendings (n : Nat) : List Sending :=
  (List.range n).map fun k => sending t transport request (beforeAttempt t transport request s k)

theorem attempt_logged (log : List Sending) :
    attempt t transport.logged request (s.withLog log) =
      ((attempt t transport request s).1,
        (attempt t transport request s).2.withLog (log ++ [sending t transport request s])) := rfl

theorem settle_withLog (ending : Attempts Reply) (log : List Sending) :
    settle ending (s.withLog log) = ((settle ending s).1, (settle ending s).2.withLog log) := by
  cases ending <;> rfl

theorem beforeAttempt_logged (n : Nat) :
    beforeAttempt t transport.logged request (s.withLog []) n =
      (beforeAttempt t transport request s n).withLog (sendings t transport request s n) := by
  induction n with
  | zero => rfl
  | succ n ih =>
      have last : sendings t transport request s (n + 1) = sendings t transport request s n ++
          [sending t transport request (beforeAttempt t transport request s n)] := by
        simp [sendings, List.range_succ]
      unfold beforeAttempt at ih ⊢
      rw [afterPauses, ih, attempt_logged, last]
      rfl

theorem attemptAt_logged (n : Nat) :
    attemptAt (fun _ => attempt t transport.logged request) (pause t) (s.withLog []) (n + 1) =
      let at_last := attemptAt (fun _ => attempt t transport request) (pause t) s (n + 1)
      (at_last.1, at_last.2.withLog (sendings t transport request s (n + 1))) := by
  have before := beforeAttempt_logged t transport request s n
  unfold beforeAttempt at before
  simp only [attemptAt, Nat.add_sub_cancel, before, attempt_logged, sendings, List.range_succ,
    List.map_append, List.map_cons, List.map_nil, beforeAttempt]

theorem query_logged (attempts : Nat) :
    let n := attemptsTaken (fun _ => attempt t transport request) (pause t) s attempts
    query attempts t transport.logged request (s.withLog []) =
      ((query attempts t transport request s).1,
        (query attempts t transport request s).2.withLog (sendings t transport request s n)) := by
  have same : attemptsTaken (fun _ => attempt t transport.logged request) (pause t) (s.withLog [])
      attempts = attemptsTaken (fun _ => attempt t transport request) (pause t) s attempts := by
    refine (isLast_lastAttempt _ _).congr ?_ |>.lastAttempt_eq
    intro k first _
    obtain ⟨k, rfl⟩ := Nat.exists_eq_add_of_le' first
    rw [attemptAt_logged]
  obtain ⟨n, taken⟩ := Nat.exists_eq_add_of_le'
    (isLast_lastAttempt attempts fun n =>
      (attemptAt (fun _ => attempt t transport request) (pause t) s n).1).first
  have taken : attemptsTaken (fun _ => attempt t transport request) (pause t) s attempts =
      n + 1 := taken
  simp only [query, withRetry_eq, same, taken, attemptAt_logged, settle_withLog]

theorem getElem?_sendings {k n : Nat} {a : Sending} :
    (sendings t transport request s n)[k]? = some a ↔
      k < n ∧ sending t transport request (beforeAttempt t transport request s k) = a := by
  by_cases inside : k < n <;> simp [sendings, inside]

theorem getLast?_sendings {n : Nat} (first : 1 ≤ n) :
    (sendings t transport request s n).getLast? =
      some (sending t transport request (beforeAttempt t transport request s (n - 1))) := by
  obtain ⟨n, rfl⟩ := Nat.exists_eq_add_of_le' first
  simp [sendings, List.range_succ]

/-- Nothing is counted before the last attempt. -/
theorem counter_beforeAttempt (n : Nat) :
    (beforeAttempt t transport request s n).counter = s.counter := by
  induction n with
  | zero => rfl
  | succ n ih => exact ih

/-- Every delay before a repetition uses up a draw. -/
theorem draws_beforeAttempt (n : Nat) :
    (beforeAttempt t transport request s n).draws = s.draws.drop n := by
  induction n with
  | zero => rfl
  | succ n ih =>
      have next : (beforeAttempt t transport request s (n + 1)).draws =
          (beforeAttempt t transport request s n).draws.tail := rfl
      rw [next, ih, List.tail_drop]

/-- An attempt is repeated when the delay after its outcome has passed and the throttle allows. -/
theorem time_sending_succ (n : Nat) :
    let a := sending t transport request (beforeAttempt t transport request s n)
    (sending t transport request (beforeAttempt t transport request s (n + 1))).time =
      readyAt t (some a.time) (a.time + a.elapsed + t.retryDelay (n + 1) (s.draws.getD n 0)) := by
  have draw : (beforeAttempt t transport request s n).draws.headD 0 = s.draws.getD n 0 := by
    rw [draws_beforeAttempt, List.headD_eq_head?_getD, List.head?_drop, List.getD_eq_getElem?_getD]
  rw [← draw]
  rfl

end Live

/-! ## What a query says -/

/-- The texts that are new after those that have been seen, each of them once. -/
theorem Answer.distinctFrom_eq (seen texts : List String) :
    distinctFrom seen texts = (texts.filter fun text => !seen.contains text).eraseDups := by
  induction texts generalizing seen with
  | nil => rfl
  | cons text texts ih =>
      by_cases old : text ∈ seen
      · simp [distinctFrom, old, ih]
      · have same (x : String) : (x == text) = decide (x = text) := by
          by_cases h : x = text <;> simp [h]
        simp [distinctFrom, old, ih, List.eraseDups_cons, List.filter_filter, same]

theorem Reply.answer_eq (r : Reply) :
    r.answer = ⟨(r.messages.map (·.content)).eraseDups, r.usage.getD ⟨0, 0, 0⟩⟩ := by
  have all (texts : List String) : texts.filter (fun text => !([] : List String).contains text) =
      texts := by simp
  rw [answer, Answer.ofChoices, Answer.distinctFrom_eq, all, Usage.zero]

namespace Live

variable (t : Throttle) (transport : Transport τ) (request : Request) (s : Live τ)

theorem settle_success (reply : Reply) (n : Nat) :
    settle (.success reply (n - 1)) s =
      (.ok ⟨(reply.messages.map (·.content)).eraseDups, reply.usage.getD ⟨0, 0, 0⟩⟩,
        { s with counter := ⟨s.counter.nrRetries + (n - 1), s.counter.nrFailures⟩ }) := by
  rw [settle, Reply.answer_eq]
  rfl

theorem settle_ofLast_error {failure : Failure} {attempts n : Nat}
    (full : failure.isTransient = true → n = max 1 attempts) :
    settle (.ofLast n (.error failure)) s =
      (.error (if failure.isTransient then .exhausted (max 1 attempts) failure else failure),
        { s with counter := ⟨s.counter.nrRetries + (n - 1), s.counter.nrFailures + 1⟩ }) := by
  cases transient : failure.isTransient with
  | false =>
      simp only [Attempts.ofLast, transient, Bool.false_eq_true, if_false]
      rfl
  | true =>
      simp only [Attempts.ofLast, transient, if_true, ← full transient]
      rfl

/-- A query says what comes of its last attempt. -/
theorem query_eq_settle (attempts : Nat) :
    let n := attemptsTaken (fun _ => attempt t transport request) (pause t) s attempts
    let s' := beforeAttempt t transport request s (n - 1)
    query attempts t transport request s =
      settle (.ofLast n (sending t transport request s').outcome)
        (attempt t transport request s').2 := by
  simp only [query, withRetry_eq]
  rfl

/-- A query counts the attempts that it repeats, and at most one failure. -/
theorem counter_query (attempts : Nat) :
    let n := attemptsTaken (fun _ => attempt t transport request) (pause t) s attempts
    ∃ failed, (query attempts t transport request s).2.counter =
      s.counter.record (n - 1) failed := by
  intro n
  have before : (attempt t transport request
      (beforeAttempt t transport request s (n - 1))).2.counter = s.counter :=
    counter_beforeAttempt t transport request s (n - 1)
  rw [query_eq_settle]
  cases (sending t transport request (beforeAttempt t transport request s (n - 1))).outcome with
  | ok reply => exact ⟨false, congrArg (·.record (n - 1) false) before⟩
  | error failure =>
      refine ⟨true, ?_⟩
      cases transient : failure.isTransient with
      | false =>
          simp only [Attempts.ofLast, transient, Bool.false_eq_true, if_false]
          exact congrArg (·.record (n - 1) true) before
      | true =>
          simp only [Attempts.ofLast, transient, if_true]
          exact congrArg (·.record (n - 1) true) before

/-! ## The retries of a query -/

/-- A query that is exactly its retries: the requests that it sends, what it says and the state that
it leaves. -/
structure IsRetried {τ : Type} (attempts : Nat) (t : Throttle) (request : Request)
    (s s' : Live τ) (log : List Sending) (said : Except Failure Answer) : Prop where
  same : ∀ a ∈ log, a.request = request
  /-- The last attempt is the first one with a final outcome or the last that may be made, whatever
  would have come of others. -/
  stops : ∀ outcome : Nat → Except Failure Reply,
    (∀ k a, log[k]? = some a → outcome (k + 1) = a.outcome) →
      log.length = lastAttempt attempts outcome
  first : ∀ a, log[0]? = some a → a.time = readyAt t s.lastRequest s.now
  next : ∀ k a a', log[k]? = some a → log[k + 1]? = some a' →
    a'.time =
      readyAt t (some a.time) (a.time + a.elapsed + t.retryDelay (k + 1) (s.draws.getD k 0))
  /-- What is said and counted comes of the last outcome. -/
  last : ∃ a, log.getLast? = some a ∧
    (s'.now = a.time + a.elapsed ∧ s'.lastRequest = some a.time ∧
      s'.draws = s.draws.drop (log.length - 1)) ∧
    match a.outcome with
    | .ok reply =>
        said = .ok ⟨(reply.messages.map (·.content)).eraseDups, reply.usage.getD ⟨0, 0, 0⟩⟩ ∧
          s'.counter = ⟨s.counter.nrRetries + (log.length - 1), s.counter.nrFailures⟩
    | .error failure =>
        said = .error (if failure.isTransient then .exhausted (max 1 attempts) failure
          else failure) ∧
          s'.counter = ⟨s.counter.nrRetries + (log.length - 1), s.counter.nrFailures + 1⟩
  /-- The counts stay in their words as long as the requests and a failure can be counted in
  them. -/
  fits : s.counter.nrRetries + log.length ≤ 0xFFFFFFFF → s.counter.nrFailures < 0xFFFFFFFF →
    s'.counter.Fits

theorem isRetried_query (attempts : Nat) :
    let n := attemptsTaken (fun _ => attempt t transport request) (pause t) s attempts
    let answered := query attempts t transport request s
    IsRetried attempts t request s answered.2 (sendings t transport request s n) answered.1 := by
  intro n answered
  have is_last : IsLast attempts
      (fun k => (attemptAt (fun _ => attempt t transport request) (pause t) s k).1) n :=
    isLast_lastAttempt attempts _
  have length : (sendings t transport request s n).length = n := by simp [sendings]
  refine ⟨fun a ha => ?_, fun outcome told => ?_, fun a ha => ?_, fun k a a' ha ha' => ?_, ?_,
    fun few failures => ?_⟩
  · obtain ⟨k, -, rfl⟩ := List.mem_map.1 ha
    rfl
  · rw [length]
    refine (is_last.congr fun k first most => ?_).lastAttempt_eq.symm
    obtain ⟨k, rfl⟩ := Nat.exists_eq_add_of_le' first
    exact told k _ ((getElem?_sendings t transport request s).2 ⟨most, rfl⟩)
  · obtain ⟨-, rfl⟩ := (getElem?_sendings t transport request s).1 ha
    rfl
  · obtain ⟨-, rfl⟩ := (getElem?_sendings t transport request s).1 ha
    obtain ⟨-, rfl⟩ := (getElem?_sendings t transport request s).1 ha'
    exact time_sending_succ t transport request s k
  · have counter := counter_beforeAttempt t transport request s (n - 1)
    have draws := draws_beforeAttempt t transport request s (n - 1)
    have said : answered = _ := query_eq_settle t transport request s attempts
    refine ⟨_, getLast?_sendings t transport request s is_last.first, ?_⟩
    rw [length]
    cases outcome : (sending t transport request
      (beforeAttempt t transport request s (n - 1))).outcome with
    | ok reply =>
        rw [said, outcome, Attempts.ofLast, settle_success, ← counter]
        exact ⟨⟨rfl, rfl, draws⟩, rfl, rfl⟩
    | error failure =>
        have full (transient : failure.isTransient = true) : n = max 1 attempts := by
          have tried : (attemptAt (fun _ => attempt t transport request) (pause t) s n).1 =
              .error failure := outcome
          refine is_last.ends.resolve_left ?_
          simp [tried, isFinal, transient]
        rw [said, outcome, settle_ofLast_error _ full, ← counter]
        exact ⟨⟨rfl, rfl, draws⟩, rfl, rfl⟩
  · obtain ⟨failed, counter⟩ := counter_query t transport request s attempts
    rw [length] at few
    rw [show answered.2.counter = _ from counter]
    constructor
    · simp only [FailureCounter.record]
      omega
    · cases failed <;> simp only [FailureCounter.record] <;> simp <;> omega

end Live

namespace Model

/-- A query of a live model is exactly its retries: it takes attempts with the numbers from one to
that of its last one, with a pause of the number of the one before between every two, and sends the
request of its prompt with each. It changes no file. -/
theorem query_live_exactly_retried (c : Config) (context : String) (t : Throttle)
    (transport : Transport τ) (prompt : String) (options : Options) (w : Files.World)
    (s : Live τ) :
    ∃ log said s',
      (live c context t transport).query prompt options (w, s) = (said, w, s') ∧
      (live c context t transport.logged).query prompt options (w, s.withLog []) =
        (said, w, s'.withLog log) ∧
      let request := Request.ofPrompt (c.profile context) prompt options
      (∃ ending live', withRetry c.nrAttempts (noting fun _ => Live.attempt t transport request)
          (notingPauses (Live.pause t)) (s, []) = (ending, live', deedsTo log.length) ∧
        Live.settle ending live' = (said, s')) ∧
      Live.IsRetried c.nrAttempts t request s s' log said := by
  let request := Request.ofPrompt (c.profile context) prompt options
  let n := attemptsTaken (fun _ => Live.attempt t transport request) (Live.pause t) s c.nrAttempts
  have length : (Live.sendings t transport request s n).length = n := by simp [Live.sendings]
  refine ⟨Live.sendings t transport request s n, (Live.query c.nrAttempts t transport request s).1,
    (Live.query c.nrAttempts t transport request s).2, rfl, ?_, ⟨_, _, ?_, rfl⟩,
    Live.isRetried_query t transport request s c.nrAttempts⟩
  · simp only [live, Live.query_logged t transport request s c.nrAttempts, request, n]
  · rw [length]
    exact withRetry_noting c.nrAttempts _ _ s

end Model

end Mutagenesis
