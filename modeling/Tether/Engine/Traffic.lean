import Tether.Engine.Opening

/-!
# `Tether.Engine.Traffic` — messages within a session

Envelopes are signed and written in the order the host queued them, and dropped with a warning
outside a session. Inbound envelopes are checked according to the policy: strict verification drops
what does not verify, lenient verification delivers first and warns later. Pongs are never checked.
-/

namespace Tether.Engine

/-! ## Outbound -/

/-- The envelope of a draft in the current session, with metadata that names the client. -/
def address (unixMillis : Int) (draft : Draft) (e : Engine) : Envelope :=
  let envelope := draft.build e.session.threadId e.session.sessionId
    (Envelope.clamp (unixMillis / 1000))
  let info := envelope.info.getD {}
  { envelope with info := some { info with clientId := info.clientId.or e.config.clientId } }

/-- Signs and writes a message. -/
def send (s : Surroundings) (draft : Draft) (e : Engine) : Outcome :=
  if e.phase.isEstablished then
    let (envelope, fault?) := e.signer.sign s.provider s.unixMillis s.nonce e.session.macKey
      (e.address s.unixMillis draft)
    let signed := match fault? with
      | some error => e.doing [.warn (.signingFailed envelope.kind error)]
      | none => e.idle
    let written := signed.emit (.write (.envelope envelope) s.write)
    match s.write with
    | .ok () => written.andThen fun e => { e with session := e.session.countSent }.idle
    | .error error => written.emit (.warn (.sendFailed envelope.kind error))
  else e.doing [.warn (.outboundDropped draft.kind e.phase)]

/-! ## Inbound -/

/-- The callback of an envelope that is delivered, with a warning for errors of the server. -/
def delivery (envelope : Envelope) : List Effect :=
  match envelope.kind with
  | .stateUpdate => [.host (.stateUpdate envelope.payload)]
  | .event => [.host (.event envelope.payload)]
  | .error => [.warn (.serverError envelope.payload), .host (.error envelope.payload)]
  | _ => []

/-- An envelope that is no pong, already counted as received. -/
def checked (s : Surroundings) (envelope : Envelope) (e : Engine) : Outcome :=
  let outcome := e.signer.verify s.provider e.session.macKey envelope
  match e.config.auth.verification with
  | .lenient =>
    let later := if outcome = .mismatch then [.warnLater (.mismatchDelivered envelope.kind)] else []
    e.doing (delivery envelope ++ later)
  | .strict =>
    if outcome.isValid then e.doing (delivery envelope)
    else
      { e with session := e.session.countFailure }.doing
        [.warn (.inboundDropped envelope.kind outcome),
          .host (.verificationFailed envelope.kind outcome)]

/-- An envelope arrived. -/
def received (s : Surroundings) (envelope : Envelope) (e : Engine) : Outcome :=
  let e := { e with session := e.session.countReceived }
  if envelope.kind = .pong then { e with heartbeat := e.heartbeat.pong }.doing [.host .pong]
  else e.checked s envelope

/-- A frame arrived. -/
def framed (s : Surroundings) (frame : String) (e : Engine) : Outcome :=
  (e.doing [.host (.message frame)]).andThen fun e =>
    match Inbound.parse frame with
    | .ok (.handshake (.ack ack)) => e.acked s ack
    | .ok (.handshake (.reject reject)) => e.rejected s reject
    | .ok (.handshake _) => e.idle
    | .ok (.envelope envelope) => e.received s envelope
    | .error error => e.doing [.warn (.malformedFrame error)]

/-- The cause of a loss by a close signal. -/
def closeCause (code : Option UInt16) (reason : String) : String :=
  let code := match code with
    | some c => toString c.toNat
    | none => "none"
  "closed (code " ++ code ++ "): " ++ reason

/-- A signal of the current connection arrived. -/
def signaled (s : Surroundings) (signal : Signal) (e : Engine) : Outcome :=
  match signal with
  | .opened => if e.phase = .connecting then e.sendHandshake s else e.idle
  | .message frame => e.framed s frame
  | .closed code reason => e.lose s.now (closeCause code reason)
  | .failed reason => e.lose s.now ("transport error: " ++ reason)

/-! ## Heartbeat -/

/-- A ping is due. -/
def pingDue (s : Surroundings) (e : Engine) : Outcome :=
  (e.send s .ping).andThen fun e => { e with heartbeat := e.heartbeat.pingSent s.now }.idle

/-- No pong came in time. The transport's last signal then takes the course of any loss. -/
def timedOut (e : Engine) : Outcome :=
  if e.heartbeat.isRunning then
    { e with heartbeat := e.heartbeat.stop }.doing
      [.warn (.noPong e.config.heartbeat.timeout.toNat), .close]
  else e.idle

end Tether.Engine
