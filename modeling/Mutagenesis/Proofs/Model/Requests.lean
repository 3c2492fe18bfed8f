import Mutagenesis.Model.Live

/-!
# What a live model sends

A live model sends the request of a prompt, at least once and at most as often as it may attempt to,
and no other request. A watched transport keeps what is sent and changes nothing else.
-/
namespace Mutagenesis

/-! ## Series of attempts -/

/-- How many attempts a series took. -/
def Attempts.number {α : Type} : Attempts α → Nat
  | success _ retries => retries + 1
  | exhausted attempts _ => attempts
  | aborted retries _ => retries + 1

section Attempts

variable {σ α : Type} {f : Nat → σ → Except Failure α × σ} {g : Nat → σ → σ} {n left : Nat}
  {s s' : σ} {failure : Failure}

/-- A series is one attempt, and after a failure that may pass, a pause and the series from the next
attempt on. -/
theorem attemptFrom_eq :
    attemptFrom f g n left s =
      match f n s with
      | (.ok value, s) => (.success value (n - 1), s)
      | (.error failure, s) =>
          if !failure.isTransient then (.aborted (n - 1) failure, s)
          else match left with
            | 0 => (.exhausted n failure, s)
            | left + 1 => attemptFrom f g (n + 1) left (g n s) :=
  attemptFrom.eq_def f g n left s

theorem attemptFrom_of_ok {value : α} (h : f n s = (.ok value, s')) :
    attemptFrom f g n left s = (.success value (n - 1), s') := by
  rw [attemptFrom_eq, h]

theorem attemptFrom_of_final (h : f n s = (.error failure, s'))
    (final : failure.isTransient = false) :
    attemptFrom f g n left s = (.aborted (n - 1) failure, s') := by
  rw [attemptFrom_eq, h]
  simp [final]

theorem attemptFrom_of_last (h : f n s = (.error failure, s'))
    (transient : failure.isTransient = true) :
    attemptFrom f g n 0 s = (.exhausted n failure, s') := by
  rw [attemptFrom_eq, h]
  simp [transient]

theorem attemptFrom_of_transient (h : f n s = (.error failure, s'))
    (transient : failure.isTransient = true) :
    attemptFrom f g n (left + 1) s = attemptFrom f g (n + 1) left (g n s') := by
  rw [attemptFrom_eq, h]
  simp [transient]

/-- What holds after each attempt and each pause holds after the series. -/
theorem attemptFrom_induction {I : σ → Prop} (attempted : ∀ n s, I s → I (f n s).2)
    (paused : ∀ n s, I s → I (g n s)) (h : I s) : I (attemptFrom f g n left s).2 := by
  fun_induction attemptFrom f g n left s with
  | case1 n left s value s' tried => simpa [tried] using attempted n s h
  | case2 n left s failure s' tried final => simpa [tried] using attempted n s h
  | case3 n s failure s' tried passing => simpa [tried] using attempted n s h
  | case4 n s failure s' tried passing left ih =>
      have after : I s' := by simpa [tried] using attempted n s h
      exact ih (paused n s' after)

/-- A series ends in success or with the last attempt when every failure may pass. -/
theorem attemptFrom_ne_aborted (transient : ∀ n s failure, (f n s).1 = .error failure →
    failure.isTransient = true) (retries : Nat) (failure : Failure) :
    (attemptFrom f g n left s).1 ≠ .aborted retries failure := by
  fun_induction attemptFrom f g n left s with
  | case1 n left s value s' tried => simp
  | case2 n left s failure' s' tried final =>
      simp [transient n s failure' (by rw [tried])] at final
  | case3 n s failure' s' tried passing => simp
  | case4 n s failure' s' tried passing left ih => exact ih

end Attempts

/-! ## Requests -/

variable {τ : Type}

/-- A transport that keeps the requests it sends. -/
def Transport.watched (transport : Transport τ) : Transport (τ × List Request) where
  send request time s :=
    let (outcome, elapsed, side) := transport.send request time s.1
    (outcome, elapsed, side, s.2 ++ [request])

namespace Live

/-- What a live model remembers, with the requests that its transport has sent. -/
def watch (log : List Request) (s : Live τ) : Live (τ × List Request) where
  transport := (s.transport, log)
  now := s.now
  lastRequest := s.lastRequest
  counter := s.counter
  draws := s.draws

/-- What a live model remembers, without the requests that its transport has sent. -/
def unwatched (s : Live (τ × List Request)) : Live τ where
  transport := s.transport.1
  now := s.now
  lastRequest := s.lastRequest
  counter := s.counter
  draws := s.draws

theorem attempt_watched (t : Throttle) (transport : Transport τ) (request : Request) (s : Live τ)
    (log : List Request) :
    attempt t transport.watched request (s.watch log) =
      ((attempt t transport request s).1,
        (attempt t transport request s).2.watch (log ++ [request])) := rfl

theorem pause_watch (t : Throttle) (retry : Nat) (s : Live τ) (log : List Request) :
    pause t retry (s.watch log) = (pause t retry s).watch log := rfl

theorem settle_watch (outcome : Attempts Reply) (s : Live τ) (log : List Request) :
    settle outcome (s.watch log) = ((settle outcome s).1, (settle outcome s).2.watch log) := by
  cases outcome <;> rfl

/-- The counter of a query goes up by the repetitions and, when it fails, by a failure. -/
theorem counter_settle (outcome : Attempts Reply) (s : Live τ) :
    (settle outcome s).2.counter =
      s.counter.record (outcome.number - 1) (settle outcome s).1.toOption.isNone := by
  cases outcome <;> rfl

/-- Attempts and pauses do not touch the counter. -/
theorem counter_attemptFrom (t : Throttle) (transport : Transport τ) (request : Request)
    (n left : Nat) (s : Live τ) :
    (attemptFrom (fun _ => attempt t transport request) (pause t) n left s).2.counter =
      s.counter :=
  attemptFrom_induction (I := fun s' : Live τ => s'.counter = s.counter) (fun _ _ h => h)
    (fun _ _ h => h) rfl

/-- Each attempt sends the request once more, and keeping the requests changes nothing else. -/
theorem attemptFrom_watched (t : Throttle) (transport : Transport τ) (request : Request)
    (n left : Nat) (s : Live τ) (log : List Request) :
    ∃ k, 1 ≤ k ∧ k ≤ left + 1 ∧
      (1 ≤ n → (attemptFrom (fun _ => attempt t transport request) (pause t) n left s).1.number =
        n - 1 + k) ∧
      attemptFrom (fun _ => attempt t transport.watched request) (pause t) n left (s.watch log) =
        ((attemptFrom (fun _ => attempt t transport request) (pause t) n left s).1,
          (attemptFrom (fun _ => attempt t transport request) (pause t) n left s).2.watch
            (log ++ List.replicate k request)) := by
  have kept := attempt_watched t transport request s log
  rcases sent : attempt t transport request s with ⟨failure | reply, s'⟩
  · rw [sent] at kept
    cases transient : failure.isTransient with
    | false =>
        refine ⟨1, Nat.le_refl 1, Nat.le_add_left 1 left, ?_⟩
        rw [attemptFrom_of_final (f := fun _ => attempt t transport request) sent transient,
          attemptFrom_of_final (f := fun _ => attempt t transport.watched request) kept transient]
        exact ⟨fun _ => rfl, rfl⟩
    | true =>
        match left with
        | 0 =>
            refine ⟨1, Nat.le_refl 1, Nat.le_refl 1, ?_⟩
            rw [attemptFrom_of_last (f := fun _ => attempt t transport request) sent transient,
              attemptFrom_of_last (f := fun _ => attempt t transport.watched request) kept
                transient]
            exact ⟨fun first => (Nat.sub_add_cancel first).symm, rfl⟩
        | left + 1 =>
            obtain ⟨k, -, most, number, further⟩ := attemptFrom_watched t transport request (n + 1)
              left (pause t n s') (log ++ [request])
            refine ⟨k + 1, Nat.le_add_left 1 k, Nat.succ_le_succ most, ?_⟩
            rw [attemptFrom_of_transient (f := fun _ => attempt t transport request) sent transient,
              attemptFrom_of_transient (f := fun _ => attempt t transport.watched request) kept
                transient, pause_watch, further, List.append_assoc, List.singleton_append,
              List.replicate_succ]
            refine ⟨fun first => ?_, rfl⟩
            have := number (Nat.le_add_left 1 n)
            omega
  · refine ⟨1, Nat.le_refl 1, Nat.le_add_left 1 left, ?_⟩
    rw [sent] at kept
    rw [attemptFrom_of_ok (f := fun _ => attempt t transport request) sent,
      attemptFrom_of_ok (f := fun _ => attempt t transport.watched request) kept]
    exact ⟨fun _ => rfl, rfl⟩

end Live

namespace Model

variable (c : Config) (context : String) (t : Throttle) (transport : Transport τ)

/-- A query of a live model sends the request of its prompt, at least once and at most as often as
the model may attempt to, and counts what it sends after the first time as retries. Keeping the
requests changes nothing else. -/
theorem query_live_watched (prompt : String) (options : Options) (s : Files.World × Live τ)
    (log : List Request) :
    ∃ k, 1 ≤ k ∧ k ≤ max 1 c.nrAttempts ∧
      (let said := (live c context t transport).query prompt options s
       said.2.2.counter = s.2.counter.record (k - 1) said.1.toOption.isNone) ∧
      (live c context t transport.watched).query prompt options (s.1, s.2.watch log) =
        match (live c context t transport).query prompt options s with
        | (outcome, w, s') => (outcome, w, s'.watch
            (log ++ List.replicate k (Request.ofPrompt (c.profile context) prompt options))) := by
  obtain ⟨k, least, most, number, sent⟩ := Live.attemptFrom_watched t transport
    (Request.ofPrompt (c.profile context) prompt options) 1 (c.nrAttempts - 1) s.2 log
  refine ⟨k, least, by omega, ?_, ?_⟩
  · simp [live, Live.query, withRetry, Live.counter_settle, Live.counter_attemptFrom,
      number (Nat.le_refl 1)]
  · simp [live, Live.query, withRetry, sent, Live.settle_watch]

/-- Without the requests that are kept, a query is that of the model whose transport keeps none. -/
theorem query_live_unwatched {prompt : String} {options : Options} {w w' : Files.World}
    {s s' : Live (τ × List Request)} {outcome : Except Failure Answer}
    (h : (live c context t transport.watched).query prompt options (w, s) = (outcome, w', s')) :
    (live c context t transport).query prompt options (w, s.unwatched) =
        (outcome, w', s'.unwatched) ∧
      ∃ k, 1 ≤ k ∧ k ≤ max 1 c.nrAttempts ∧
        s'.counter = s.counter.record (k - 1) outcome.toOption.isNone ∧
        s'.transport.2 = s.transport.2 ++
          List.replicate k (Request.ofPrompt (c.profile context) prompt options) := by
  obtain ⟨k, least, most, counted, kept⟩ := query_live_watched c context t transport prompt options
    (w, s.unwatched) s.transport.2
  have same : s.unwatched.watch s.transport.2 = s := rfl
  rw [same, h] at kept
  rcases said : (live c context t transport).query prompt options (w, s.unwatched) with
    ⟨outcome', w₁, s₁⟩
  rw [said] at kept counted
  obtain ⟨rfl, rfl, rfl⟩ := by simpa using kept
  exact ⟨rfl, k, least, most, counted, rfl⟩

/-- When every failure of the transport may pass, a query fails only after its last attempt. -/
theorem exhausted_of_query_live
    (transient : ∀ request time side failure, (transport.send request time side).1 =
      .error failure → failure.isTransient = true)
    {prompt : String} {options : Options} {s s' : Files.World × Live τ} {failure : Failure}
    (h : (live c context t transport).query prompt options s = (.error failure, s')) :
    ∃ attempts last, failure = .exhausted attempts last := by
  let request := Request.ofPrompt (c.profile context) prompt options
  have ends : ∀ retries failure', (attemptFrom (fun _ => Live.attempt t transport request)
      (Live.pause t) 1 (c.nrAttempts - 1) s.2).1 ≠ .aborted retries failure' :=
    attemptFrom_ne_aborted fun _ s failure =>
      transient request (readyAt t s.lastRequest s.now) s.transport failure
  rcases tried : attemptFrom (fun _ => Live.attempt t transport request) (Live.pause t) 1
    (c.nrAttempts - 1) s.2 with ⟨outcome, live'⟩
  simp only [live, Live.query, withRetry, request, tried] at h
  cases outcome with
  | success reply retries => simp [Live.settle] at h
  | exhausted attempts last =>
      exact ⟨attempts, last, (Except.error.inj (Prod.mk.inj h).1).symm⟩
  | aborted retries failure' => exact absurd (by rw [tried]) (ends retries failure')

/-- The requests that a query of a live model sends. -/
def requests (prompt : String) (options : Options) (s : Files.World × Live τ) : List Request :=
  ((live c context t transport.watched).query prompt options (s.1, s.2.watch [])).2.2.transport.2

theorem requests_eq (prompt : String) (options : Options) (s : Files.World × Live τ) :
    ∃ k, 1 ≤ k ∧ k ≤ max 1 c.nrAttempts ∧ requests c context t transport prompt options s =
      List.replicate k (Request.ofPrompt (c.profile context) prompt options) := by
  obtain ⟨k, least, most, -, sent⟩ := query_live_watched c context t transport prompt options s []
  refine ⟨k, least, most, ?_⟩
  rw [requests, sent]
  simp [Live.watch]

end Model

end Mutagenesis
