import Tether.Signing

/-!
# `Tether.Config.Basic` — the configuration of a client

A configuration names the server and the client and sets how to reconnect, when to send pings, how to
sign and verify, and what to announce in a handshake. `Config.validate` refuses the configurations
the session engine cannot run with, and says why; `Config.merge` layers one configuration over
another.
-/

namespace Tether

/-- Reconnect backoff; delays in milliseconds. -/
structure ReconnectConfig where
  baseDelay : UInt64 := 1000
  maxDelay : UInt64 := 30000
  maxRetries : UInt32 := 5
  deriving DecidableEq, Repr, Inhabited

/-- Heartbeat settings; times in milliseconds. -/
structure HeartbeatConfig where
  enabled : Bool := true
  /-- Wins over the interval that the server asks for. -/
  interval : Option UInt64 := none
  /-- The time allowed for a pong. -/
  timeout : UInt64 := 10000
  deriving DecidableEq, Repr, Inhabited

/-- Signing and verification. -/
structure AuthConfig where
  /-- The shared secret, used while there is no session key. -/
  secretKey : Option String := none
  verification : Policy := .lenient
  /-- Negotiate session keys during the handshake. -/
  keyExchange : Bool := false
  deriving DecidableEq, Repr, Inhabited

/-- What a handshake announces. -/
structure HandshakeConfig where
  deviceFingerprint : Option String := none
  intent : Option String := none
  capabilities : List String := ["state-update", "events", "ping-pong"]
  metadata : Option Json := none
  deriving Repr, Inhabited

/-- The configuration of a client. -/
structure Config where
  url : String := "ws://127.0.0.1:8080"
  /-- Names the client for good; the persisted thread is kept under it. -/
  clientId : String := "ltp-client"
  subprotocol : String := Protocol.defaultSubprotocol
  version : String := Protocol.version
  reconnect : ReconnectConfig := {}
  heartbeat : HeartbeatConfig := {}
  auth : AuthConfig := {}
  handshake : HandshakeConfig := {}
  deriving Repr

namespace AuthConfig

/-- The settings as shown in diagnostics, without the secret. -/
def label (a : AuthConfig) : String :=
  let secret := if a.secretKey.isSome then "Some(\"[REDACTED]\")" else "None"
  "AuthConfig \x7b secret_key: " ++ secret ++ ", verification: " ++ a.verification.label
    ++ ", key_exchange: " ++ (if a.keyExchange then "true" else "false") ++ " \x7d"

end AuthConfig

namespace Config

instance : Inhabited Config := ⟨{}⟩

/-- The configuration of a client of a server, with defaults elsewhere. -/
def create (url clientId : String) : Config := { url, clientId }

/-- Does the url use one of the two schemes of web sockets? -/
def hasScheme (url : String) : Bool := "ws://".isPrefixOf url || "wss://".isPrefixOf url

/-- The first reason why the session engine cannot run with a configuration. -/
def flaw? (c : Config) : Option String :=
  if c.clientId = "" then some "client_id must not be empty"
  else if !hasScheme c.url then some ("url must use ws:// or wss://, got " ++ c.url)
  else if c.reconnect.baseDelay = 0 then some "reconnect.base_delay_ms must be > 0"
  else if c.reconnect.maxDelay < c.reconnect.baseDelay then
    some "reconnect.max_delay_ms must be >= base_delay_ms"
  else if c.heartbeat.timeout = 0 then some "heartbeat.timeout_ms must be > 0"
  else if c.auth.secretKey = some "" then some "auth.secret_key must not be empty"
  else if c.auth.verification = .strict ∧ c.auth.secretKey = none ∧ c.auth.keyExchange = false then
    some "strict verification needs auth.secret_key or auth.key_exchange"
  else none

/-- Refuses configurations the session engine cannot run with. -/
def validate (c : Config) : Except Error Unit :=
  match c.flaw? with
  | some reason => .error (.config reason)
  | none => .ok ()

/-- `other` layered over `base`. The url and the client are taken from `other` unless they are the
defaults, the secret is taken from `other` unless it has none; everything else is `other`'s. -/
def merge (base other : Config) : Config :=
  { other with
    url := if other.url ≠ ({} : Config).url then other.url else base.url
    clientId := if other.clientId ≠ ({} : Config).clientId then other.clientId else base.clientId
    auth := { other.auth with secretKey := other.auth.secretKey.or base.auth.secretKey } }

end Config
end Tether
