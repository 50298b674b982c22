/-!
# Retrying with growing delays

Attempts are counted from zero.  After a failed attempt `a` the next one follows `unit · 2 ^ a`
later, the exponent being capped at ten.  Times are in milliseconds.

## Main definitions

* `RetryPolicy` — how many attempts, and the unit of the delays.
* `RetryPolicy.delay`, `RetryPolicy.hasNext` — the delay behind an attempt, and whether another
  attempt follows it.
* `fitsClock` — whether a span of time can be waited for at all.
-/

namespace AgentPipeline

/-- The largest exponent of two by which the unit of a delay is multiplied. -/
def maxBackoffExponent : Nat := 10

/-- How often something is attempted, and how the delays between attempts grow. -/
structure RetryPolicy where
  maxAttempts : Nat
  /-- The delay behind the first attempt. -/
  unitMs : Nat
deriving Repr, DecidableEq

namespace RetryPolicy

/-- Three attempts, one second apart at first. -/
def default : RetryPolicy :=
  ⟨3, 1000⟩

/-- The policy of an agent.  A count of zero still means one attempt. -/
def ofCount (retryCount unitMs : Nat) : RetryPolicy :=
  ⟨max retryCount 1, unitMs⟩

/-- The delay between a failed attempt and the next one. -/
def delay (p : RetryPolicy) (attempt : Nat) : Nat :=
  p.unitMs * Nat.pow 2 (min attempt maxBackoffExponent)

/-- Whether another attempt follows a failed one. -/
def hasNext (p : RetryPolicy) (attempt : Nat) : Bool :=
  attempt + 1 < p.maxAttempts

end RetryPolicy

/-- Whether the whole seconds of a span of milliseconds fit 64 bits. -/
def fitsClock (ms : Nat) : Bool :=
  ms / 1000 < Nat.pow 2 64

end AgentPipeline
