import Mutagenesis.Model.Basic
import Mutagenesis.Model.Chat
import Mutagenesis.Model.Throttle

/-!
# Live models

A live model sends its queries to an endpoint. Requests keep the distance of a throttle, failures
that may pass are followed by further attempts, and retries and failures are counted. Attempts are
numbered from one, and a pause precedes each repetition. Time is a number of milliseconds that the
state carries.
-/
namespace Mutagenesis

/-- How a series of attempts ended. -/
inductive Attempts (α : Type) where
  | success (value : α) (retries : Nat)
  | exhausted (attempts : Nat) (last : Failure)
  | aborted (retries : Nat) (failure : Failure)
  deriving DecidableEq, Repr

variable {σ α : Type}

/-- The attempts from the given one on, with so many repetitions left. -/
def attemptFrom (op : Nat → σ → Except Failure α × σ) (pause : Nat → σ → σ) (attempt : Nat) :
    Nat → σ → Attempts α × σ
  | left, s =>
      match op attempt s with
      | (.ok value, s) => (.success value (attempt - 1), s)
      | (.error failure, s) =>
          if !failure.isTransient then (.aborted (attempt - 1) failure, s)
          else match left with
            | 0 => (.exhausted attempt failure, s)
            | left + 1 => attemptFrom op pause (attempt + 1) left (pause attempt s)

/-- Up to the given number of attempts, and at least one. -/
def withRetry (attempts : Nat) (op : Nat → σ → Except Failure α × σ) (pause : Nat → σ → σ)
    (s : σ) : Attempts α × σ :=
  attemptFrom op pause 1 (attempts - 1) s

/-- A way to send requests: the outcome of a request, the milliseconds until it is there, and the
state of the other side after it. The second argument is the time of the request. -/
structure Transport (τ : Type) where
  send : Request → Nat → τ → Except Failure Reply × Nat × τ

/-- What a live model remembers. -/
structure Live (τ : Type) where
  transport : τ
  now : Nat
  /-- When the last request started. -/
  lastRequest : Option Nat
  counter : FailureCounter
  /-- The draws for the delays to come; none adds nothing. -/
  draws : List Nat

namespace Live

variable {τ : Type}

/-- A live model at the start. -/
def start (transport : τ) (draws : List Nat) : Live τ := ⟨transport, 0, none, .zero, draws⟩

/-- Sends a request as soon as the throttle allows. -/
def attempt (t : Throttle) (transport : Transport τ) (request : Request) (s : Live τ) :
    Except Failure Reply × Live τ :=
  let time := readyAt t s.lastRequest s.now
  let (outcome, elapsed, side) := transport.send request time s.transport
  (outcome, { s with transport := side, now := time + elapsed, lastRequest := some time })

/-- Lets the delay before a repetition pass. -/
def pause (t : Throttle) (retry : Nat) (s : Live τ) : Live τ :=
  { s with now := s.now + t.retryDelay retry (s.draws.headD 0), draws := s.draws.tail }

/-- The outcome of a query, and the count of its retries and failures. -/
def settle (outcome : Attempts Reply) (s : Live τ) : Except Failure Answer × Live τ :=
  match outcome with
  | .success reply retries =>
      (.ok reply.answer, { s with counter := s.counter.record retries false })
  | .exhausted attempts last =>
      (.error (.exhausted attempts last),
        { s with counter := s.counter.record (attempts - 1) true })
  | .aborted retries failure =>
      (.error failure, { s with counter := s.counter.record retries true })

/-- Sends a request until it succeeds, fails for good or has been sent often enough. -/
def query (attempts : Nat) (t : Throttle) (transport : Transport τ) (request : Request)
    (s : Live τ) : Except Failure Answer × Live τ :=
  let (outcome, s) := withRetry attempts (fun _ => attempt t transport request) (pause t) s
  settle outcome s

end Live

/-- The live model of a configuration. -/
def Model.live {τ : Type} (c : Config) (context : String) (t : Throttle)
    (transport : Transport τ) : Model (Live τ) where
  profile := c.profile context
  query prompt options s :=
    let request := Request.ofPrompt (c.profile context) prompt options
    let (outcome, live) := Live.query c.nrAttempts t transport request s.2
    (outcome, s.1, live)
  counter s := s.counter

end Mutagenesis
