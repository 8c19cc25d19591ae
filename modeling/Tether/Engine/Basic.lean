import Tether.Backoff
import Tether.Config.Basic
import Tether.Engine.Effect
import Tether.Heartbeat
import Tether.Identity
import Tether.Transport

/-!
# `Tether.Engine.Basic` — the state of the session engine

The engine owns all mutable state of a client: its phase, its session, every timer, the receiver of
the current connection and the callers who wait for it. What a handler may use from outside during
one step is a value of `Surroundings`; what it does is a list of effects in its `Outcome`.
-/

namespace Tether

/-- What a step may use from outside. -/
structure Surroundings where
  provider : Provider := .software
  /-- The clock of timers, in milliseconds; it only goes forward. -/
  now : Nat
  /-- The wall clock, in milliseconds. -/
  unixMillis : Int
  /-- The transport's answer to a frame. -/
  write : Except Error Unit
  /-- The storage's answers. -/
  store : StoreCall → Except Error Unit
  /-- Fresh random bytes for a nonce. -/
  nonce : Bytes
  /-- A fresh key pair. -/
  pair : KeyPair

/-- The state of a client. -/
structure Engine where
  config : Config
  phase : Phase := .disconnected
  session : Session := {}
  /-- The persisted thread to resume, until a handshake settles it. -/
  resumeThread : Option String := none
  /-- The transport was asked for a connection and has not answered. -/
  dialing : Bool := false
  /-- The receiver of the current connection. -/
  receiver : Option Nat := none
  /-- The callers of connect without an answer, in the order they came. -/
  waiting : List Nat := []
  backoff : Backoff
  /-- When the next attempt begins. -/
  reconnectAt : Option Nat := none
  heartbeat : Heartbeat
  /-- The key exchange of the handshake that has no answer. -/
  exchange : Option KeyExchange := none
  /-- A rejected resume was already followed by a fresh handshake. -/
  resumeRetried : Bool := false
  /-- The attempt under way follows a loss. -/
  lost : Bool := false
  running : Bool := true
  deriving Repr

namespace Engine

/-- A new client, with the thread found in its storage. -/
def create (config : Config) (thread : Option String) : Engine where
  config
  resumeThread := thread
  backoff := { config := config.reconnect }
  heartbeat := { timeout := config.heartbeat.timeout.toNat }

/-- Where the client's ids are kept. -/
def identity (e : Engine) : Identity := ⟨e.config.clientId⟩

/-- The signer of the client's envelopes. -/
def signer (e : Engine) : Signer :=
  .create e.config.clientId e.config.auth.secretKey e.config.auth.verification

/-- The engine after a step, and what it did, in order. -/
structure Outcome where
  engine : Engine
  effects : List Effect
  deriving Repr

namespace Outcome

/-- More to do with the engine as it is now. -/
def andThen (o : Outcome) (next : Engine → Outcome) : Outcome :=
  let n := next o.engine
  ⟨n.engine, o.effects ++ n.effects⟩

/-- One more effect. -/
def emit (o : Outcome) (effect : Effect) : Outcome := ⟨o.engine, o.effects ++ [effect]⟩

end Outcome

/-- Nothing done. -/
def idle (e : Engine) : Outcome := ⟨e, []⟩

/-- Effects that leave the engine as it is. -/
def doing (e : Engine) (effects : List Effect) : Outcome := ⟨e, effects⟩

/-! ## Parts of handlers -/

/-- Enters a phase, and publishes it if it is another one. -/
def enter (phase : Phase) (e : Engine) : Outcome :=
  if e.phase = phase then e.idle else ⟨{ e with phase }, [.phase phase]⟩

/-- Lets go of the connection and of everything that belongs to it. -/
def abandon (e : Engine) : Engine :=
  { e with receiver := none, dialing := false, heartbeat := e.heartbeat.stop, exchange := none }

/-- Lets go of the connection and of any attempt that is scheduled, and ends the session. -/
def settle (e : Engine) : Engine :=
  { e.abandon with
    reconnectAt := none
    backoff := e.backoff.reset
    session := e.session.ended }

/-- Answers everyone who waits for a connection. -/
def answerAll (answer : Except Error Unit) (e : Engine) : Outcome :=
  ⟨{ e with waiting := [] }, e.waiting.map fun caller => .connectReply caller answer⟩

/-- Asks the transport for a connection. -/
def openTransport (e : Engine) : Outcome :=
  (e.enter .connecting).andThen fun e =>
    ⟨{ e with dialing := true }, [.dial e.config.url e.config.subprotocol]⟩

end Engine
end Tether
