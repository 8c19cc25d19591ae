/-!
# `Tether.Heartbeat` — is the peer still there?

While the heartbeat runs, a ping is due every interval. The first ping without an answer sets a
watchdog, which a pong disarms; if the watchdog fires, the peer counts as gone. Both timers are
deadlines in milliseconds of a clock that only goes forward.

* `Heartbeat.start`, `Heartbeat.stop`, `Heartbeat.pingSent`, `Heartbeat.pong` — what happens to it;
* `Heartbeat.fire?` — serves a deadline that has come.
-/

namespace Tether

/-- What a heartbeat asks for. -/
inductive Tick where
  /-- Send a ping. -/
  | ping
  /-- No pong came in time. -/
  | timeout
  deriving DecidableEq, Repr

/-- A ping timer and a watchdog; spans and deadlines in milliseconds. -/
structure Heartbeat where
  /-- The time allowed for a pong. -/
  timeout : Nat
  /-- The time between pings, while running. -/
  interval : Option Nat := none
  pingAt : Option Nat := none
  timeoutAt : Option Nat := none
  deriving DecidableEq, Repr, Inhabited

namespace Heartbeat

/-- Is it running? -/
def isRunning (h : Heartbeat) : Bool := h.interval.isSome

/-- Disarms both timers. -/
def stop (h : Heartbeat) : Heartbeat := { timeout := h.timeout }

/-- Pings every `interval` from now on; an earlier run ends. -/
def start (h : Heartbeat) (now interval : Nat) : Heartbeat :=
  { timeout := h.timeout, interval := some interval, pingAt := some (now + interval) }

/-- A ping went out: the next one is set, and the watchdog unless it is already armed. -/
def pingSent (h : Heartbeat) (now : Nat) : Heartbeat :=
  match h.interval with
  | none => h
  | some interval =>
    { h with pingAt := some (now + interval), timeoutAt := h.timeoutAt.or (some (now + h.timeout)) }

/-- A pong arrived. -/
def pong (h : Heartbeat) : Heartbeat := { h with timeoutAt := none }

/-- The deadline of a tick. -/
def deadline? (h : Heartbeat) : Tick → Option Nat
  | .ping => h.pingAt
  | .timeout => h.timeoutAt

/-- The heartbeat without the deadline of a tick. -/
def disarm (h : Heartbeat) : Tick → Heartbeat
  | .ping => { h with pingAt := none }
  | .timeout => { h with timeoutAt := none }

/-- Has a deadline come? -/
def isDue (deadline : Option Nat) (now : Nat) : Bool :=
  match deadline with
  | some d => d ≤ now
  | none => false

/-- Serves a deadline that has come: the timer is disarmed. -/
def fire? (h : Heartbeat) (now : Nat) (tick : Tick) : Option Heartbeat :=
  if isDue (h.deadline? tick) now then some (h.disarm tick) else none

end Heartbeat
end Tether
