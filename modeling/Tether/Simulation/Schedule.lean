import Tether.Simulation.Move

/-!
# `Tether.Simulation.Schedule` — a world in virtual time

A world settles: whatever is at hand is processed until nothing is left. Calls that have reached the
client come first, then the transport's answer, the signals of the connection and the timers that are
due, then the checks put off, then the calls in the background, and last the end of a client that
nobody holds. Time moves only when the world is asked to advance, from one deadline to the next.

* `World.next?` — the move at hand;
* `World.settle` — makes moves until none is at hand;
* `World.advance` — lets time run on.
-/

namespace Tether.World

/-- The first timer that is due. -/
def timer? (w : World) : Option Move :=
  if Heartbeat.isDue w.engine.heartbeat.pingAt w.now then some (.tick .ping)
  else if Heartbeat.isDue w.engine.heartbeat.timeoutAt w.now then some (.tick .timeout)
  else if Heartbeat.isDue w.engine.reconnectAt w.now then some .reconnect
  else none

/-- Does the client's receiver hold anything? -/
def isReceiving (w : World) : Bool :=
  match w.engine.receiver with
  | some n => (w.link.receive n).2 != .waiting
  | none => false

/-- What the client does next of its own accord. -/
def engineMove? (w : World) : Option Move :=
  if !w.engine.running then none
  else if !w.commands.isEmpty then some .take
  else if w.engine.dialing then some .dial
  else if w.isReceiving then some .receive
  else w.timer?

/-- The move at hand. -/
def next? (w : World) : Option Move :=
  match w.engineMove? with
  | some m => some m
  | none =>
    if !w.later.isEmpty then some .report
    else if !w.background.isEmpty then some .arrive
    else if w.engine.running && w.isForsaken then some .stop
    else none

/-- Makes the moves at hand, up to `fuel` of them. -/
def run : (fuel : Nat) → World → World
  | 0, w => w
  | fuel + 1, w =>
    match w.next? with
    | some m => run fuel (w.act m)
    | none => w

/-- More moves than the things at hand can lead to: each call and each signal leads to a few, and so
does each of the timers. -/
def enough (w : World) : Nat :=
  8 * w.link.lines.foldl (fun n line => n + line.queue.length)
    (w.commands.length + w.background.length) + 64

/-- Makes moves until none is at hand. -/
def settle (w : World) : World := w.run w.enough

/-- The first deadline. -/
def deadline? (w : World) : Option Nat :=
  [w.engine.heartbeat.pingAt, w.engine.heartbeat.timeoutAt, w.engine.reconnectAt].foldl
    (Option.merge min) none

/-- Lets time run on to `target`, over at most `fuel` deadlines. -/
def advanceTo (target : Nat) : (fuel : Nat) → World → World
  | 0, w => w.act (.wait (target - w.now))
  | fuel + 1, w =>
    match w.deadline? with
    | some d =>
      if d ≤ target then advanceTo target fuel (w.act (.wait (d - w.now))).settle
      else w.act (.wait (target - w.now))
    | none => w.act (.wait (target - w.now))

/-- Lets time run on. Every deadline lies at least one millisecond after the one before. -/
def advance (w : World) (span : Nat) : World := w.advanceTo (w.now + span) (span + 1)

end Tether.World
