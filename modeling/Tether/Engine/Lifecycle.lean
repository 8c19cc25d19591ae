import Tether.Engine.Basic

/-!
# `Tether.Engine.Lifecycle` — connecting, disconnecting, losing the transport

A loss in a phase that expects a transport leads to another attempt while the backoff grants one, and
to permanent failure otherwise. Disconnecting and failing leave nothing behind: no connection, no
timer, no key, and nobody without an answer.
-/

namespace Tether

namespace Error

/-- What callers who waited for a connection are told of a failure. -/
def rejection : Error → Error
  | .protocolRejection reason => .protocolRejection reason
  | .retryExhausted attempts cause => .retryExhausted attempts cause
  | e => .permanentlyFailed e.message

end Error

namespace Engine

/-- The host asks for a connection. Callers who come during an attempt join it. -/
def connect (caller : Nat) (e : Engine) : Outcome :=
  if e.phase.isEstablished then e.doing [.connectReply caller (.ok ())]
  else if e.phase.isConnecting then { e with waiting := e.waiting ++ [caller] }.idle
  else
    { e with
      waiting := e.waiting ++ [caller]
      backoff := e.backoff.reset
      resumeRetried := false
      lost := false }.openTransport

/-- Lets go of everything, and tells callers who wait that the client disconnected. -/
def disconnect (e : Engine) : Outcome :=
  let wasEstablished := e.phase.isEstablished
  (e.settle.doing [.close]).andThen (answerAll (.error .clientDisconnected))
    |>.andThen (enter .disconnected)
    |>.andThen fun e => if wasEstablished then e.doing [.host .disconnected] else e.idle

/-- Gives up for good. -/
def fail (error : Error) (e : Engine) : Outcome :=
  (e.settle.doing [.close]).andThen (enter .permanentlyFailed)
    |>.emit (.gaveUp e.config.clientId error)
    |>.emit (.host (.permanentFailure error))
    |>.andThen (answerAll (.error error.rejection))

/-- Acts on the backoff's answer to a loss. -/
def retry (now : Nat) (cause : String) (decision : Backoff.Decision) (e : Engine) : Outcome :=
  match decision with
  | .retry attempt delay =>
    { e with reconnectAt := some (now + delay.toNat) }.enter (.reconnecting attempt)
  | .alreadyPending => e.idle
  | .exhausted attempts => e.fail (.retryExhausted attempts cause)

/-- The transport was lost. -/
def lose (now : Nat) (cause : String) (e : Engine) : Outcome :=
  let closed := e.abandon.doing [.close]
  if e.phase.reconnectsOnLoss then
    closed.andThen (fun e => { e with session := e.session.ended, lost := true }.doing
        [.warn (.connectionLost e.phase cause)])
      |>.andThen (fun e => if e.phase.isEstablished then e.doing [.host .disconnected] else e.idle)
      |>.andThen fun e =>
        let (backoff, decision) := e.backoff.schedule
        { e with backoff }.retry now cause decision
  else closed

/-- The time of the scheduled attempt has come. -/
def reconnectDue (e : Engine) : Outcome :=
  { e with reconnectAt := none, backoff := e.backoff.clearPending }.openTransport

/-- The transport's answer to a request for a connection. -/
def dialed (now : Nat) (answer : Except Error Nat) (e : Engine) : Outcome :=
  match answer with
  | .ok receiver => { e with dialing := false, receiver := some receiver }.idle
  | .error error => { e with dialing := false }.lose now error.message

end Engine
end Tether
