import Tether.Message.Inbound
import Tether.Phase
import Tether.Session
import Tether.Signing
import Tether.Store
import Tether.Text.Duration

/-!
# `Tether.Engine.Effect` — what the session engine does to its surroundings

A step of the engine yields a list of effects in the order in which they happen: writes to the
transport and the storage with their results, callbacks of the host, answers to its calls, and lines
of the log. `Notice.message` and `Effect.obituary` are the only places where lines get their words.
-/

namespace Tether

/-- A message for the server. -/
inductive Outbound where
  | handshake (h : Handshake)
  | envelope (e : Envelope)
  deriving Repr

namespace Outbound

/-- The frame of the message. -/
def frame : Outbound → String
  | .handshake h => h.frame
  | .envelope e => e.frame

end Outbound

/-- A callback of the host. -/
inductive HostEvent where
  | connected (threadId sessionId : String)
  /-- An established session was lost or closed. -/
  | disconnected
  /-- An error of the server, or a message that strict verification dropped. -/
  | error (payload : Json)
  /-- The client gave up. -/
  | permanentFailure (error : Error)
  | stateUpdate (payload : Json)
  | event (payload : Json)
  | pong
  /-- Every inbound frame, before it is looked at. -/
  | message (frame : String)
  deriving Repr

namespace HostEvent

/-- The report on a message that strict verification dropped. -/
def verificationFailed (kind : Kind) (outcome : Verification) : HostEvent :=
  .error (.object [("code", .text "verification_failed"), ("message_type", .text kind.name),
    ("reason", .text outcome.message)])

end HostEvent

/-- A warning in the log. -/
inductive Notice where
  | connectionLost (phase : Phase) (cause : String)
  | identityNotSaved (error : Error)
  | identityNotCleared (error : Error)
  | keyExchangeFailed (fault : CryptoFault)
  | resumeRejected (reason : String)
  | malformedFrame (error : Error)
  /-- A message with a wrong signature was delivered all the same. -/
  | mismatchDelivered (kind : Kind)
  /-- A message that does not verify was dropped. -/
  | inboundDropped (kind : Kind) (outcome : Verification)
  | serverError (payload : Json)
  /-- A message was to be sent outside a session. -/
  | outboundDropped (kind : Kind) (phase : Phase)
  | signingFailed (kind : Kind) (error : Error)
  | sendFailed (kind : Kind) (error : Error)
  /-- No pong came within the time allowed, in milliseconds. -/
  | noPong (timeout : Nat)
  deriving Repr

namespace Notice

/-- The line in the log. -/
def message : Notice → String
  | .connectionLost phase cause => "Connection lost while " ++ phase.label ++ ": " ++ cause
  | .identityNotSaved error => "Failed to persist session identity: " ++ error.message
  | .identityNotCleared error => "Failed to clear persisted identity: " ++ error.message
  | .keyExchangeFailed fault =>
    "Key exchange failed, continuing without session keys: " ++ fault.message
  | .resumeRejected reason => "Resume rejected (" ++ reason ++ "), starting a new thread"
  | .malformedFrame error => "Dropping malformed frame: " ++ error.message
  | .mismatchDelivered kind =>
    "Signature mismatch on inbound " ++ kind.name ++ " (delivered anyway)"
  | .inboundDropped kind outcome => "Dropping inbound " ++ kind.name ++ ": " ++ outcome.message
  | .serverError payload => "Server error: " ++ payload.render
  | .outboundDropped kind phase =>
    "Dropping outbound " ++ kind.name ++ ": session not established (" ++ phase.label ++ ")"
  | .signingFailed kind error =>
    "Signing " ++ kind.name ++ " failed, sending placeholder: " ++ error.message
  | .sendFailed kind error => "Failed to send " ++ kind.name ++ ": " ++ error.message
  | .noPong timeout => "No pong within " ++ Text.duration timeout ++ ", closing transport"

end Notice

/-- One thing the session engine does. -/
inductive Effect where
  /-- The published phase changes. -/
  | phase (phase : Phase)
  /-- The transport is asked to open a connection. -/
  | dial (url subprotocol : String)
  /-- A frame is written, with the transport's answer. -/
  | write (message : Outbound) (answer : Except Error Unit)
  /-- The transport is closed. -/
  | close
  /-- The storage is called, with its answer. -/
  | store (call : StoreCall) (answer : Except Error Unit)
  /-- The host is called back. -/
  | host (event : HostEvent)
  | warn (notice : Notice)
  /-- A warning by a check that runs once everything at hand is processed. -/
  | warnLater (notice : Notice)
  /-- The log's line on a client that gave up. -/
  | gaveUp (clientId : String) (error : Error)
  /-- A caller of connect is answered. -/
  | connectReply (caller : Nat) (answer : Except Error Unit)
  /-- A caller of disconnect is answered. -/
  | disconnectReply (caller : Nat)
  /-- A caller who asked for the session is answered. -/
  | snapshotReply (caller : Nat) (snapshot : Snapshot)
  deriving Repr

namespace Effect

/-- The line in the log on a client that gave up. -/
def obituary (clientId : String) (error : Error) : String :=
  clientId ++ " permanently failed: " ++ error.message

end Effect
end Tether
