import Tether.Crypto.Fault
import Tether.Json.Fault

/-!
# `Tether.Error` — why an operation of the client fails

A rejected handshake, exhausted retries and permanent failure are fatal: they end the session until
the host connects again. `Error.message` is the only place where a failure gets its words.
-/

namespace Tether

/-- Why an operation of the client fails. -/
inductive Error where
  /-- The socket failed to open, write or close. -/
  | transport (reason : String)
  /-- The server refused the handshake, and no retry remains. -/
  | protocolRejection (reason : String)
  /-- Reconnecting gave up. -/
  | retryExhausted (attempts : UInt32) (cause : String)
  /-- The host disconnected while the operation was pending. -/
  | clientDisconnected
  /-- The client has failed for good. -/
  | permanentlyFailed (reason : String)
  /-- The session engine has stopped. -/
  | shutdown
  /-- A message without the shape of one. -/
  | invalidMessage (reason : String)
  | config (reason : String)
  | storage (reason : String)
  | crypto (fault : CryptoFault)
  | json (fault : Json.Fault)
  deriving DecidableEq, Repr

namespace Error

/-- The failure in words. -/
def message : Error → String
  | .transport reason => "Transport error: " ++ reason
  | .protocolRejection reason => "Handshake rejected: " ++ reason
  | .retryExhausted attempts cause =>
    "Reconnect failed after " ++ toString attempts.toNat ++ " attempts: " ++ cause
  | .clientDisconnected => "Client disconnected"
  | .permanentlyFailed reason => "Session permanently failed: " ++ reason
  | .shutdown => "Session driver stopped"
  | .invalidMessage reason => "Invalid message format: " ++ reason
  | .config reason => "Config error: " ++ reason
  | .storage reason => "Storage error: " ++ reason
  | .crypto fault => "Crypto error: " ++ fault.message
  | .json fault => "JSON error: " ++ fault.message

/-- Does the failure end the session for good? -/
def isFatal : Error → Bool
  | .protocolRejection _ | .retryExhausted _ _ | .permanentlyFailed _ => true
  | _ => false

/-- The words of the failure and of the faults beneath it. -/
def causes : Error → List String
  | .crypto fault => (Error.crypto fault).message :: fault.causes
  | .json fault => [(Error.json fault).message, fault.message]
  | e => [e.message]

end Error
end Tether
