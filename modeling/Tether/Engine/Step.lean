import Tether.Engine.Traffic

/-!
# `Tether.Engine.Step` — one input at a time

The engine takes one input after the other, so handlers never interleave. An input that cannot occur
in a state, such as the answer to a connection nobody asked for or a timer that is not due, changes
nothing; nor does any input once the engine has stopped.
-/

namespace Tether

/-- A call of the host. -/
inductive Command where
  | connect (caller : Nat)
  | disconnect (caller : Nat)
  | send (draft : Draft)
  | snapshot (caller : Nat)
  deriving Repr

/-- One input of the engine. -/
inductive Input where
  | command (c : Command)
  /-- The host let go of the client. -/
  | shutdown
  /-- The transport's answer to a request for a connection. -/
  | dialed (answer : Except Error Nat)
  /-- The next signal of the current connection. -/
  | signal (s : Signal)
  /-- The current connection ended without a signal. -/
  | detached
  /-- A timer of the heartbeat fires. -/
  | tick (t : Tick)
  /-- The timer of the scheduled attempt fires. -/
  | reconnect
  deriving Repr

namespace Engine

/-- A call of the host. -/
def command (s : Surroundings) (c : Command) (e : Engine) : Outcome :=
  match c with
  | .connect caller => e.connect caller
  | .disconnect caller => e.disconnect.emit (.disconnectReply caller)
  | .send draft => e.send s draft
  | .snapshot caller => e.doing [.snapshotReply caller (e.session.snapshot s.now)]

/-- A timer of the heartbeat. -/
def ticked (s : Surroundings) (t : Tick) (e : Engine) : Outcome :=
  match e.heartbeat.fire? s.now t with
  | none => e.idle
  | some heartbeat =>
    let e := { e with heartbeat }
    match t with
    | .ping => e.pingDue s
    | .timeout => e.timedOut

/-- What an input leads to while the engine runs. -/
def handle (s : Surroundings) (input : Input) (e : Engine) : Outcome :=
  match input with
  | .command c => e.command s c
  | .shutdown => let o := e.disconnect; ⟨{ o.engine with running := false }, o.effects⟩
  | .dialed answer => if e.dialing then e.dialed s.now answer else e.idle
  | .signal signal => if e.receiver.isSome then e.signaled s signal else e.idle
  | .detached =>
    if e.receiver.isSome then e.signaled s (.closed none "transport dropped") else e.idle
  | .tick t => e.ticked s t
  | .reconnect => if Heartbeat.isDue e.reconnectAt s.now then e.reconnectDue else e.idle

/-- One step. -/
def step (s : Surroundings) (input : Input) (e : Engine) : Outcome :=
  if e.running then e.handle s input else e.idle

end Engine
end Tether
