/-!
# `Tether.Phase` — how far a client has got

A client is in one of six phases. It is *connecting* in the broad sense while an attempt is in flight
or scheduled, which takes in waiting for the answer to a handshake.
-/

namespace Tether

/-- Which handshake waits for an answer. -/
inductive Offer where
  /-- A new thread was asked for. -/
  | fresh
  /-- An earlier thread was asked for. -/
  | resume
  deriving DecidableEq, Repr

/-- How far a client has got. -/
inductive Phase where
  /-- Not connected, and not trying to be. -/
  | disconnected
  /-- The transport is being opened. -/
  | connecting
  /-- A handshake was sent and has no answer. -/
  | awaiting (offer : Offer)
  | established
  /-- Waiting for an attempt, counted from one. -/
  | reconnecting (attempt : UInt32)
  /-- Gave up. -/
  | permanentlyFailed
  deriving DecidableEq, Repr, Inhabited

namespace Phase

/-- The phase in words. -/
def label : Phase → String
  | .disconnected => "disconnected"
  | .connecting => "connecting"
  | .awaiting .fresh => "awaiting handshake (init)"
  | .awaiting .resume => "awaiting handshake (resume)"
  | .established => "established"
  | .reconnecting attempt => "reconnecting (attempt " ++ toString attempt.toNat ++ ")"
  | .permanentlyFailed => "permanently failed"

/-- Can messages be sent? -/
def isEstablished : Phase → Bool
  | .established => true
  | _ => false

/-- Is an attempt in flight or scheduled? -/
def isConnecting : Phase → Bool
  | .connecting | .awaiting _ | .reconnecting _ => true
  | _ => false

/-- Does losing the transport lead to another attempt? -/
def reconnectsOnLoss : Phase → Bool
  | .connecting | .awaiting _ | .established => true
  | _ => false

end Phase
end Tether
