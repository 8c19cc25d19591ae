import Tether.Crypto.Keys
import Tether.Message.Handshake

/-!
# `Tether.Session` — the session a client is in

An ack gives a session its ids. They outlive the session, so that the thread can be resumed; keys and
the time of the ack do not. Counters run over the whole life of a client. Times are milliseconds of a
clock that only goes forward.

* `Session.establish`, `Session.setKeys`, `Session.ended`, `Session.cleared` — its life;
* `Session.snapshot` — what may be shown of it.
-/

namespace Tether

/-- The session of a client. -/
structure Session where
  threadId : Option String := none
  sessionId : Option String := none
  /-- The time between pings in effect, in milliseconds. -/
  heartbeatInterval : Option UInt64 := none
  /-- The server took up an earlier thread. -/
  resumed : Bool := false
  /-- When the ack arrived, while the session lives. -/
  establishedAt : Option Nat := none
  keys : Option SessionKeys := none
  sent : Nat := 0
  received : Nat := 0
  verificationFailures : Nat := 0
  deriving DecidableEq, Repr, Inhabited

/-- What may be shown of a session: no keys. -/
structure Snapshot where
  threadId : Option String
  sessionId : Option String
  heartbeatInterval : Option UInt64
  resumed : Bool
  hasSessionKeys : Bool
  sent : Nat
  received : Nat
  verificationFailures : Nat
  /-- Whole seconds since the ack. -/
  uptime : Nat
  deriving DecidableEq, Repr, Inhabited

namespace Session

/-- Does the session live? -/
def isEstablished (s : Session) : Bool := s.establishedAt.isSome

/-- Takes in an ack. An interval of the client's own wins over the one that was negotiated. -/
def establish (s : Session) (ack : Ack) (ownInterval : Option UInt64) (now : Nat) : Session :=
  { s with
    threadId := some ack.threadId
    sessionId := some ack.sessionId
    heartbeatInterval := some (ownInterval.getD ack.heartbeatInterval)
    resumed := ack.resumed.getD false
    establishedAt := some now }

/-- Installs derived keys. -/
def setKeys (s : Session) (keys : SessionKeys) : Session := { s with keys := some keys }

/-- Ends the session; the ids stay. -/
def ended (s : Session) : Session := { s with establishedAt := none, keys := none }

/-- Ends the session and forgets the ids. -/
def cleared (s : Session) : Session :=
  { s.ended with threadId := none, sessionId := none, heartbeatInterval := none, resumed := false }

/-- The key that signs within the session. -/
def macKey (s : Session) : Option Key := s.keys.map SessionKeys.mac

/-- Counts an outbound message. -/
def countSent (s : Session) : Session := { s with sent := s.sent + 1 }

/-- Counts an inbound message. -/
def countReceived (s : Session) : Session := { s with received := s.received + 1 }

/-- Counts a message whose signature does not verify. -/
def countFailure (s : Session) : Session :=
  { s with verificationFailures := s.verificationFailures + 1 }

/-- What may be shown of the session. -/
def snapshot (s : Session) (now : Nat) : Snapshot where
  threadId := s.threadId
  sessionId := s.sessionId
  heartbeatInterval := s.heartbeatInterval
  resumed := s.resumed
  hasSessionKeys := s.keys.isSome
  sent := s.sent
  received := s.received
  verificationFailures := s.verificationFailures
  uptime := match s.establishedAt with
    | some start => (now - start) / 1000
    | none => 0

end Session
end Tether
