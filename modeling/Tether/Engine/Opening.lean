import Tether.Engine.Lifecycle

/-!
# `Tether.Engine.Opening` — handshakes

Once a socket is open, the client offers a handshake: it resumes the thread of the last ack, or the
persisted one, and asks for a new thread if there is none. A rejected resume is followed by one fresh
handshake on the same connection; any other rejection is final. Each handshake has a key pair of its
own.
-/

namespace Tether.Engine

/-- The thread to resume: that of the last ack, or the persisted one. -/
def thread? (e : Engine) : Option String := e.session.threadId.or e.resumeThread

/-- The handshake of an engine, with a public key if session keys are negotiated. -/
def offer (publicKey : Option String) (e : Engine) : Offer × Handshake :=
  match e.thread? with
  | some threadId =>
    (.resume, .resume
      { version := e.config.version
        clientId := e.config.clientId
        threadId
        reason := some (if e.lost then "reconnect" else "client_restart")
        publicKey })
  | none =>
    let announced := e.config.handshake
    (.fresh, .init
      { version := e.config.version
        clientId := e.config.clientId
        deviceFingerprint := announced.deviceFingerprint
        intent := announced.intent
        capabilities :=
          if announced.capabilities.isEmpty then none else some announced.capabilities
        metadata := announced.metadata
        publicKey })

/-- Sends a handshake. -/
def sendHandshake (s : Surroundings) (e : Engine) : Outcome :=
  let exchange : Option KeyExchange :=
    if e.config.auth.keyExchange then some { pair := s.pair } else none
  let (kind, handshake) := e.offer (exchange.map fun x => x.pair.publicKey.toBase64)
  ({ e with exchange }.enter (.awaiting kind)).andThen fun e =>
    let written := e.doing [.write (.handshake handshake) s.write]
    match s.write with
    | .ok () => written
    | .error error =>
      written.andThen
        (lose s.now ("failed to send " ++ handshake.kind.name ++ ": " ++ error.message))

/-- Calls the storage up to the first failure, with a warning if there is one. -/
def callStore (s : Surroundings) (calls : List StoreCall) (warning : Error → Notice) (e : Engine) :
    Outcome :=
  let made := (StoreCall.made s.store calls).map fun (call, answer) => Effect.store call answer
  match StoreCall.failure? s.store calls with
  | none => e.doing made
  | some error => (e.doing made).emit (.warn (warning error))

/-- The session keys that an ack and the key exchange of its handshake lead to, if both sides gave a
public key. -/
def derivedKeys? (s : Surroundings) (exchange : Option KeyExchange) (ack : Ack) :
    Option (Except CryptoFault SessionKeys) :=
  match exchange, ack.publicKey with
  | some exchange, some encoded =>
    match PublicKey.ofBase64 encoded with
    | .ok peer => some ((exchange.complete s.provider peer).sessionKeys s.provider ack.sessionId)
    | .error fault => some (.error (.exchange fault))
  | _, _ => none

/-- Installs session keys, if the handshake leads to any. -/
def installKeys (s : Surroundings) (ack : Ack) (e : Engine) : Outcome :=
  let spent := { e with exchange := none }
  match derivedKeys? s e.exchange ack with
  | none => spent.idle
  | some (.ok keys) => { spent with session := spent.session.setKeys keys }.idle
  | some (.error fault) => spent.doing [.warn (.keyExchangeFailed fault)]

/-- Starts the heartbeat, if it is enabled and there is an interval. -/
def startHeartbeat (now : Nat) (e : Engine) : Engine :=
  match e.session.heartbeatInterval with
  | some interval =>
    if e.config.heartbeat.enabled ∧ interval ≠ 0 then
      { e with heartbeat := e.heartbeat.start now interval.toNat }
    else e
  | none => e

/-- The server granted a session. -/
def acked (s : Surroundings) (ack : Ack) (e : Engine) : Outcome :=
  match e.phase with
  | .awaiting _ =>
    let session := e.session.establish ack e.config.heartbeat.interval s.now
    ({ e with session }.callStore s (e.identity.saving ack.threadId ack.sessionId)
        .identityNotSaved).andThen (installKeys s ack)
      |>.andThen (fun e =>
        ({ e with backoff := e.backoff.reset, resumeRetried := false, lost := false }.startHeartbeat
          s.now).enter .established)
      |>.emit (.host (.connected ack.threadId ack.sessionId))
      |>.andThen (answerAll (.ok ()))
  | _ => e.idle

/-- The server refused a session. -/
def rejected (s : Surroundings) (reject : Reject) (e : Engine) : Outcome :=
  match e.phase with
  | .awaiting kind =>
    if kind = .resume ∧ ¬ e.resumeRetried then
      ({ e with resumeRetried := true }.doing [.warn (.resumeRejected reject.reason)]).andThen
          (callStore s e.identity.clearing .identityNotCleared)
        |>.andThen fun e =>
          { e with session := e.session.cleared, resumeThread := none }.sendHandshake s
    else e.fail (.protocolRejection reject.reason)
  | _ => e.idle

end Tether.Engine
