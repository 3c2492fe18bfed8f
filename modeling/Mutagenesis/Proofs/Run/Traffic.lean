import Mutagenesis.Proofs.Run.Accounting
import Mutagenesis.Proofs.Run.Mirror

/-!
# The traffic of a run

What a live model is asked in a run and what it sends for it, compared with the counts of the
summary. A cache answers some prompts before they reach the model. The queries that do reach it send
one request and the retries, and a query that fails is a prompt that failed. `Ledger` is the
invariant, kept by each query and so by a whole run.
-/
namespace Mutagenesis

open Files (World)

/-- The requests that are sent for queries in turn: for each query its own request, at least once
and at most so often. -/
inductive Sent (p : Profile) (most : Nat) : List Said → List Request → Prop
  | nothing : Sent p most [] []
  | further {queries : List Said} {requests : List Request} {q : Said} {k : Nat}
      (before : Sent p most queries requests) (once : 1 ≤ k) (bounded : k ≤ most) :
      Sent p most (queries ++ [q])
        (requests ++ List.replicate k (Request.ofPrompt p q.text q.options))

/-- What passes through a live model: the queries that get to it and the requests that it sends. -/
structure Traffic where
  queries : List Said
  requests : List Request

variable {τ : Type}

namespace Model

/-- A live model that keeps its queries and its requests, behind a cache if there is one. -/
def observed (c : Config) (context : String) (t : Throttle) (transport : Transport τ)
    (cache : Option Path) : Model (Live (τ × List Request) × List Said) :=
  (live c context t transport.watched).watched.behind cache

/-- Observing a live model changes nothing. -/
theorem mirrors_observed (c : Config) (context : String) (t : Throttle) (transport : Transport τ)
    (cache : Option Path) :
    (observed c context t transport cache).Mirrors ((live c context t transport).behind cache)
      (Live.unwatched ∘ Prod.fst) :=
  ((mirrors_watched _).trans (mirrors_live c context t transport)).behind cache

theorem counter_observed (c : Config) (context : String) (t : Throttle) (transport : Transport τ)
    (cache : Option Path) (s : Live (τ × List Request) × List Said) :
    (observed c context t transport cache).counter s = s.1.counter := by
  cases cache <;> rfl

end Model

namespace Job

/-- The traffic of a run over a live model that has sent nothing yet. -/
def traffic (j : Job) (c : Config) (context : String) (t : Throttle) (transport : Transport τ)
    (cache : Option Path) (files : List SourceFile) (w : World) (side : τ) (draws : List Nat) :
    Traffic :=
  let s := (j.generate (Model.observed c context t transport cache) files
    (w, .start (side, []) draws, [])).2.2
  ⟨s.2, s.1.transport.2⟩

/-- How the counts of a summary follow from the traffic of the run. -/
structure TrafficAccounts (p : Profile) (most : Nat) (cache : Option Path) (seen : Traffic)
    (r : RunSummary) : Prop where
  failures : r.failures.nrFailures = r.nrQueryFailed
  requests : seen.requests.length = r.failures.nrRetries + seen.queries.length
  sent : Sent p most seen.queries seen.requests
  uncached : cache = none → seen.requests.length = r.nrPrompts + r.failures.nrRetries
  /-- The counts of the model stay in their words as long as the requests can be counted in one. -/
  fits : seen.requests.length ≤ 0xFFFFFFFF → r.failures.Fits

/-- What a live model has counted, sent and been asked, against the turns taken so far. -/
structure Ledger (p : Profile) (most : Nat) (cache : Option Path) (ts : List Turn)
    (s : Live (τ × List Request)) (log : List Said) : Prop where
  failures : s.counter.nrFailures = ts.countP Turn.isFailed
  requests : s.transport.2.length = s.counter.nrRetries + log.length
  counted : s.counter.nrFailures ≤ log.length
  sent : Sent p most log s.transport.2
  uncached : cache = none → log.length = ts.length

section Run

variable {j : Job} {c : Config} {context : String} {t : Throttle} {transport : Transport τ}
  {cache : Option Path} {ts : List Turn} {s s₁ : Live (τ × List Request)} {log log₁ : List Said}

theorem ledger_start (p : Profile) (most : Nat) (cache : Option Path) (side : τ)
    (draws : List Nat) : Ledger p most cache [] (.start (side, []) draws) [] :=
  ⟨rfl, rfl, Nat.le_refl 0, .nothing, fun _ => rfl⟩

namespace Ledger

/-- A turn that a cache answers is on no account of the model. -/
theorem answered {p : Profile} {most : Nat} (b : Ledger p most cache ts s log) {turn : Turn}
    {answer : Answer} (outcome : turn.outcome = .ok answer) (some : cache ≠ none) :
    Ledger p most cache (ts ++ [turn]) s log where
  failures := by simp [b.failures, List.countP_append, Turn.isFailed, outcome]
  requests := b.requests
  counted := b.counted
  sent := b.sent
  uncached none := absurd none some

/-- A turn that gets to the model is sent once more than it is retried, and is a failed one exactly
if the model counts a failure. -/
theorem reached {p : Profile} {most k : Nat} (b : Ledger p most cache ts s log) {turn : Turn}
    {q : Said} {failed : Bool} (once : 1 ≤ k) (bounded : k ≤ most)
    (counter : s₁.counter = s.counter.record (k - 1) failed) (kind : turn.isFailed = failed)
    (requests : s₁.transport.2 =
      s.transport.2 ++ List.replicate k (Request.ofPrompt p q.text q.options)) :
    Ledger p most cache (ts ++ [turn]) s₁ (log ++ [q]) where
  failures := by
    rw [counter, List.countP_append, ← b.failures]
    cases failed <;> simp [FailureCounter.record, kind]
  requests := by
    have := b.requests
    simp only [requests, counter, FailureCounter.record, List.length_append, List.length_replicate,
      List.length_singleton]
    omega
  counted := by
    have := b.counted
    rw [counter, List.length_append, List.length_singleton, FailureCounter.record]
    dsimp only
    split <;> omega
  sent := by
    rw [requests]
    exact b.sent.further once bounded
  uncached none := by simp [b.uncached none]

/-- Every query keeps the ledger, whether it gets to the model or not. -/
theorem query (b : Ledger (c.profile context) (max 1 c.nrAttempts) cache ts s log)
    (transient : ∀ request time side failure, (transport.send request time side).1 =
      .error failure → failure.isTransient = true)
    {text : String} {options : Options} {w w₁ : World} {outcome : Except Failure Answer}
    (h : (Model.observed c context t transport cache).query text options (w, s, log) =
      (outcome, w₁, s₁, log₁)) {turn : Turn} (same : turn.outcome = outcome) :
    Ledger (c.profile context) (max 1 c.nrAttempts) cache (ts ++ [turn]) s₁ log₁ := by
  obtain ⟨folder, answer, cached, hit, -, -, rfl, rfl⟩ | ⟨w', said, rfl, -⟩ :=
    Model.query_behind_watched h
  · exact b.answered (same.trans hit) (by simp [cached])
  · obtain ⟨-, k, once, bounded, counter, requests⟩ :=
      Model.query_live_unwatched c context t transport said
    have kind : turn.isFailed = outcome.toOption.isNone := by
      cases outcome with
      | ok answer => simp [Turn.isFailed, same, Except.toOption]
      | error failure =>
          -- the model gives up a prompt only for want of attempts, and never for want of a record
          obtain ⟨attempts, last, rfl⟩ := Model.exhausted_of_query_live c context t
            transport.watched (fun request time side => transient request time side.1) said
          simp [Turn.isFailed, same, Failure.isUnrecorded, Except.toOption]
    exact b.reached once bounded counter kind requests

/-- The ledger is kept on the whole way of a run. -/
theorem run (transient : ∀ request time side failure, (transport.send request time side).1 =
      .error failure → failure.isTransient = true)
    {specs : List (SourceFile × PromptSpec)} {p p' : Progress}
    {s s' : World × Live (τ × List Request) × List Said} {ts' : List Turn}
    (way : Visits j (Model.observed c context t transport cache) specs p s ts' p' s')
    (b : Ledger (c.profile context) (max 1 c.nrAttempts) cache ts s.2.1 s.2.2) :
    Ledger (c.profile context) (max 1 c.nrAttempts) cache (ts ++ ts') s'.2.1 s'.2.2 := by
  induction way generalizing ts with
  | done => simpa using b
  | full full => simpa using b
  | unfit room unfit rest ih => exact ih b
  | filtered room fits skipped rest ih => exact ih b
  | asked room fits kept answer saved rest ih =>
      simpa using ih (b.query transient answer rfl)

end Ledger

end Run

/-- The counts of a run over a fresh live model agree with its traffic, when every failure of the
transport may pass: as many failures are counted as prompts failed, and as many requests are sent
as queries get to the model and are retried. The run that is observed is the run itself. -/
theorem generate_trafficAccounts (j : Job) (c : Config) (context : String) (t : Throttle)
    (transport : Transport τ) (cache : Option Path) (files : List SourceFile) (w : World)
    (side : τ) (draws : List Nat)
    (transient : ∀ request time side failure, (transport.send request time side).1 =
      .error failure → failure.isTransient = true)
    {r : RunResult} {w' : World} {s' : Live τ}
    (h : j.generate ((Model.live c context t transport).behind cache) files
      (w, .start side draws) = (.ok r, w', s')) :
    (∃ s₁, j.generate (Model.observed c context t transport cache) files
        (w, .start (side, []) draws, []) = (.ok r, w', s₁) ∧ s₁.1.unwatched = s') ∧
      TrafficAccounts (c.profile context) (max 1 c.nrAttempts) cache
        (j.traffic c context t transport cache files w side draws) r.summary := by
  obtain ⟨s₁, made, view⟩ :=
    (Model.mirrors_observed c context t transport cache).exists_generate
      (s := (.start (side, []) draws, [])) h
  refine ⟨⟨s₁, made, view⟩, ?_⟩
  have seen : j.traffic c context t transport cache files w side draws =
      ⟨s₁.2, s₁.1.transport.2⟩ := by rw [traffic, made]
  obtain ⟨w₁, p, w₂, s₂, -, way, rfl, -, rfl⟩ := generate_eq_ok made
  obtain ⟨visited, -, books, -⟩ := (books_start j).run way
  have ledger := (ledger_start (c.profile context) (max 1 c.nrAttempts) cache side draws).run
    transient way
  simp only [List.nil_append] at books ledger
  rw [seen]
  exact {
    failures := by
      simp [RunSummary.setFailures, Model.counter_observed, ledger.failures, books.failed]
    requests := by simpa [RunSummary.setFailures, Model.counter_observed] using ledger.requests
    sent := ledger.sent
    uncached := by
      intro none
      have requests := ledger.requests
      rw [ledger.uncached none, ← books.prompts, Nat.add_comm] at requests
      simpa [RunSummary.setFailures, Model.counter_observed] using requests
    fits := by
      intro (few : s₁.1.transport.2.length ≤ 0xFFFFFFFF)
      have requests := ledger.requests
      have counted := ledger.counted
      constructor
      all_goals
        simp only [RunSummary.setFailures, Model.counter_observed]
        omega }

/-- A prompt that fails twice and one that is answered when it is sent again, behind a cache that
holds neither: four requests for two queries. -/
theorem trafficAccounts_of_failed_and_retried :
    let transport : Transport (List Bool) := ⟨fun _ _ side =>
      match side with
      | [] => (.error (.transport "closed"), 1, [])
      | false :: more => (.error (.status 500 ""), 1, more)
      | true :: more => (.ok ⟨[⟨"assistant", "none"⟩], none⟩, 1, more)⟩
    let file : SourceFile := ⟨"a.py", .python, "f(x)\n",
      [⟨.between "a.py" (1, 0) (1, 1), "f", "callee"⟩,
        ⟨.between "a.py" (1, 2) (1, 3), "x", "name"⟩]⟩
    let j : Job := ⟨Config.standard, "\x7b\x7borig\x7d\x7d", .none, none⟩
    let c : Config := { Config.standard with nrAttempts := 2 }
    let cache : Option Path := some (.ofString "c")
    let side := [false, false, false, true]
    let seen := j.traffic c "" .unbounded transport cache [file] ⟨[], []⟩ side []
    (∀ request time side failure, (transport.send request time side).1 = .error failure →
        failure.isTransient = true) ∧
      ∃ r w' s', j.generate ((Model.live c "" .unbounded transport).behind cache) [file]
          (⟨[], []⟩, .start side []) = (.ok r, w', s') ∧
        (seen.requests.length, seen.queries.length) = (4, 2) ∧
        TrafficAccounts (c.profile "") 2 cache seen r.summary := by
  intro transport file j c cache side seen
  have transient : ∀ request time side failure, (transport.send request time side).1 =
      .error failure → failure.isTransient = true := by
    rintro request time (_ | ⟨_ | _, more⟩) failure h <;> cases h <;> rfl
  have lengths : (seen.requests.length, seen.queries.length) = (4, 2) := by decide +kernel
  obtain ⟨r, ⟨w', s'⟩, h⟩ := exists_generate_of_no_output (j := j)
    (m := (Model.live c "" .unbounded transport).behind cache) rfl [file]
    (⟨[], []⟩, .start side [])
  exact ⟨transient, r, w', s', h, lengths,
    (generate_trafficAccounts j c "" .unbounded transport cache [file] ⟨[], []⟩ side [] transient
      h).2⟩

end Job

end Mutagenesis
