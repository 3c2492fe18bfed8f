import Mutagenesis.Config.Basic

/-!
# Throttling

When requests may be sent: at any time, a fixed time apart, or a fixed time apart with growing
delays before attempts are repeated. All times are in milliseconds, but for the reckoning of a
growing delay, which is in nanoseconds and goes no further than the longest time there is.
-/
namespace Mutagenesis

/-- A rule for the times of requests. -/
inductive Throttle where
  | unbounded
  /-- The time between requests and before attempts are repeated. -/
  | fixed (interval : Nat)
  /-- The time between requests, the first delay before an attempt is repeated, and the longest. -/
  | backoff (interval base most : Nat)
  deriving DecidableEq, Repr

namespace Throttle

/-- The rule that a configuration asks for. -/
def ofConfig (c : Config) : Throttle :=
  if c.benchmark then backoff 1000 2000 60000
  else if c.rateLimit = 0 then unbounded
  else fixed c.rateLimit

/-- The least time between two requests. -/
def interval : Throttle → Nat
  | unbounded => 0
  | fixed interval => interval
  | backoff interval _ _ => interval

/-- The nanoseconds of a millisecond. -/
def millisecond : Nat := 1000000

/-- The longest time there is, in nanoseconds: one of them less than 2^64 seconds. -/
def longest : Nat := 0x10000000000000000 * 1000000000 - 1

/-- By how much the first delay has grown before a repetition: it doubles each time, as far as
thirty-two bits hold. -/
def growth (retry : Nat) : Nat := if retry ≤ 32 then Nat.pow 2 (retry - 1) else 0xFFFFFFFF

/-- The delay of a backoff before a repetition, with the first delay and the longest, all three in
nanoseconds. The draw adds whole milliseconds, fewer than the first delay has, and a time that
would be too long is the longest there is. -/
def backoffDelay (base most retry draw : Nat) : Nat :=
  let grown := min longest (base * growth retry)
  let jitter := draw % max (base / millisecond) 1 * millisecond
  min most (min longest (grown + jitter))

/-- The delay before the repetition of an attempt, numbered from one. -/
def retryDelay (t : Throttle) (retry draw : Nat) : Nat :=
  match t with
  | unbounded => 0
  | fixed interval => interval
  | backoff _ base most =>
      backoffDelay (base * millisecond) (most * millisecond) retry draw / millisecond

end Throttle

/-- The time at which a request may start, when one started before. -/
def readyAt (t : Throttle) (previous : Option Nat) (now : Nat) : Nat :=
  match previous with
  | none => now
  | some time => max now (time + t.interval)

end Mutagenesis
