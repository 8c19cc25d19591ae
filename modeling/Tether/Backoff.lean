import Tether.Config.Basic

/-!
# `Tether.Backoff` — when to try again

Delays double from one attempt to the next, up to a ceiling, and the number of attempts is limited.
At most one attempt is pending at a time. `Backoff` keeps the books and owns no timer.

* `Backoff.delay` — the delay before an attempt, in 64-bit arithmetic that stops at the greatest word;
* `Backoff.schedule` — asks for another attempt.
-/

namespace Tether

/-- The books on attempts since the last success. -/
structure Backoff where
  config : ReconnectConfig
  /-- Attempts granted. -/
  attempts : UInt32 := 0
  /-- The delay of the last attempt granted, in milliseconds, cut off at the greatest 32-bit word. -/
  lastDelay : UInt32 := 0
  /-- An attempt was granted and has not begun. -/
  pending : Bool := false
  deriving DecidableEq, Repr, Inhabited

namespace Backoff

/-- The answer to a request for another attempt. -/
inductive Decision where
  /-- Attempt number `attempt`, after `delay` milliseconds. -/
  | retry (attempt : UInt32) (delay : UInt64)
  | alreadyPending
  /-- No attempt is left. -/
  | exhausted (attempts : UInt32)
  deriving DecidableEq, Repr

/-- The greatest 64-bit word. -/
def ceiling : Nat := 0xffffffffffffffff

/-- Two to a power, cut off at the greatest word. -/
def factor (exponent : UInt32) : Nat := if exponent < 64 then 1 <<< exponent.toNat else ceiling

/-- The delay before the attempt after `attempt` others, in milliseconds. -/
def delay (b : Backoff) (attempt : UInt32) : UInt64 :=
  min (UInt64.ofNat (min (b.config.baseDelay.toNat * factor attempt) ceiling)) b.config.maxDelay

/-- A span of milliseconds, cut off at the greatest 32-bit word. -/
def shortened (milliseconds : UInt64) : UInt32 :=
  UInt32.ofNat (min milliseconds.toNat 0xffffffff)

/-- Asks for another attempt. -/
def schedule (b : Backoff) : Backoff × Decision :=
  if b.pending then (b, .alreadyPending)
  else if b.config.maxRetries ≤ b.attempts then (b, .exhausted b.attempts)
  else
    let delay := b.delay b.attempts
    let attempts := b.attempts + 1
    ({ b with attempts, lastDelay := shortened delay, pending := true }, .retry attempts delay)

/-- The attempt that was pending begins, or is given up. -/
def clearPending (b : Backoff) : Backoff := { b with pending := false }

/-- Starts over. -/
def reset (b : Backoff) : Backoff := { config := b.config }

end Backoff
end Tether
